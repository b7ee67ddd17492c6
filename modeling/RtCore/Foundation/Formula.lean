import Mathlib.Algebra.Ring.Basic
import Mathlib.Data.List.Basic

/-!
# Arithmetic formulas

The usual grammar of formulas: binary `+ - * /`, a unary minus, a power that is associative to the
right and binds tighter than the minus, parentheses, decimal numbers, variables and functions of one
argument. Text is read into tokens and these into an expression; both readings are relations, and
there is one reading of a text at most.

A formula has a value in every commutative ring, under any meaning of its numbers, functions and
quotients. A power whose exponent is a whole number is a product.

## Main definitions

* `Token`, `IsLexeme`, `Lexes` — the tokens of a text
* `Formula`, `Reads`, `Parses` — the grammar
* `Interpretation`, `Formula.value` — what a formula denotes

## Main results

* `Lexes.unique`, `Reads.unique`, `Parses.unique` — a text has one reading at most
-/

namespace RtCore.Foundation

/-! ### Tokens -/

/-- A token of an expression. -/
inductive Token
  | number (text : List Char)
  | name (text : List Char)
  | plus
  | minus
  | star
  | slash
  | caret
  | leftParen
  | rightParen
deriving DecidableEq, Repr

namespace Token

/-- The character of a token that has only one. -/
def ofChar? : Char → Option Token
  | '+' => some plus
  | '-' => some minus
  | '*' => some star
  | '/' => some slash
  | '^' => some caret
  | '(' => some leftParen
  | ')' => some rightParen
  | _ => none

/-- A sum or a product does not go on with the token, an operand starts with it. -/
def startsOperand : Token → Bool
  | number _ | name _ | leftParen => true
  | _ => false

/-- The token is an operator or a parenthesis. -/
def isSymbol : Token → Bool
  | number _ | name _ => false
  | _ => true

end Token

/-- `std::isspace`. -/
def isSpace (c : Char) : Bool :=
  c = ' ' || c = '\t' || c = '\n' || c = '\x0b' || c = '\x0c' || c = '\r'

/-- A name can begin with the character. -/
def isIdentifierStart (c : Char) : Bool := c.isAlpha || c = '_'

/-- A name can go on with the character. -/
def isIdentifierChar (c : Char) : Bool := c.isAlphanum || c = '_'

/-- Digits behind a point, if there is one. -/
def IsFraction (text : List Char) : Prop :=
  text = [] ∨ ∃ digits, text = '.' :: digits ∧ ∀ c ∈ digits, c.isDigit = true

/-- A power of ten, if there is one. -/
def IsExponent (text : List Char) : Prop :=
  text = [] ∨ ∃ mark sign digits, text = mark :: (sign ++ digits) ∧ (mark = 'e' ∨ mark = 'E') ∧
    (sign = [] ∨ sign = ['+'] ∨ sign = ['-']) ∧ (∀ c ∈ digits, c.isDigit = true) ∧ digits ≠ []

/-- A decimal number has a digit before or behind its point. -/
def IsDecimal (text : List Char) : Prop :=
  ∃ whole fraction exponent, text = whole ++ (fraction ++ exponent) ∧
    (∀ c ∈ whole, c.isDigit = true) ∧ IsFraction fraction ∧ IsExponent exponent ∧
      ∃ c ∈ whole ++ fraction, c.isDigit = true

/-- A name does not go on here. -/
def EndsName (rest : List Char) : Prop := ∀ c ∈ rest.head?, isIdentifierChar c = false

/-- A number does not go on here. -/
def EndsNumber (rest : List Char) : Prop := ∀ c ∈ rest.head?, isIdentifierChar c = false ∧ c ≠ '.'

/-- The text of a token, if this follows it. -/
inductive IsLexeme : Token → List Char → List Char → Prop
  | symbol {c : Char} {token : Token} {rest : List Char}
      (isSymbol : Token.ofChar? c = some token) : IsLexeme token [c] rest
  | name {c : Char} {text rest : List Char} (start : isIdentifierStart c = true)
      (all : ∀ c ∈ text, isIdentifierChar c = true) (ends : EndsName rest) :
      IsLexeme (.name (c :: text)) (c :: text) rest
  | number {text rest : List Char} (decimal : IsDecimal text) (ends : EndsNumber rest) :
      IsLexeme (.number text) text rest

/-- A text has these tokens, with blanks around them. -/
inductive Lexes : List Char → List Token → Prop
  | nil : Lexes [] []
  | space {c : Char} {rest : List Char} {tokens : List Token} (blank : isSpace c = true)
      (later : Lexes rest tokens) : Lexes (c :: rest) tokens
  | token {token : Token} {text rest : List Char} {tokens : List Token}
      (lexeme : IsLexeme token text rest) (later : Lexes rest tokens) :
      Lexes (text ++ rest) (token :: tokens)

/-! ### Formulas -/

/-- An expression over numbers and names. -/
inductive Formula
  | number (text : List Char)
  | named (name : List Char)
  | call (function : List Char) (argument : Formula)
  | neg (a : Formula)
  | add (a b : Formula)
  | sub (a b : Formula)
  | mul (a b : Formula)
  | div (a b : Formula)
  | pow (base exponent : Formula)
deriving DecidableEq, Repr

/-- What is read of a formula: a sum, say, or what follows its first summands. -/
inductive Part
  | sum
  | sumTail (summands : Formula)
  | product
  | productTail (factors : Formula)
  | unary
  | power
  | powerTail (base : Formula)
  | atom

/-- A part is read from the first tokens, which leaves the others. -/
inductive Reads : Part → List Token → Formula → List Token → Prop
  | sum {tokens rest left : List Token} {a e : Formula} (first : Reads .product tokens a rest)
      (later : Reads (.sumTail a) rest e left) : Reads .sum tokens e left
  | plus {tokens rest left : List Token} {a b e : Formula} (next : Reads .product tokens b rest)
      (later : Reads (.sumTail (.add a b)) rest e left) :
      Reads (.sumTail a) (.plus :: tokens) e left
  | minus {tokens rest left : List Token} {a b e : Formula} (next : Reads .product tokens b rest)
      (later : Reads (.sumTail (.sub a b)) rest e left) :
      Reads (.sumTail a) (.minus :: tokens) e left
  | sumEnd {tokens : List Token} {a : Formula}
      (ends : tokens.head? ≠ some .plus ∧ tokens.head? ≠ some .minus) :
      Reads (.sumTail a) tokens a tokens
  | product {tokens rest left : List Token} {a e : Formula} (first : Reads .unary tokens a rest)
      (later : Reads (.productTail a) rest e left) : Reads .product tokens e left
  | times {tokens rest left : List Token} {a b e : Formula} (next : Reads .unary tokens b rest)
      (later : Reads (.productTail (.mul a b)) rest e left) :
      Reads (.productTail a) (.star :: tokens) e left
  | divide {tokens rest left : List Token} {a b e : Formula} (next : Reads .unary tokens b rest)
      (later : Reads (.productTail (.div a b)) rest e left) :
      Reads (.productTail a) (.slash :: tokens) e left
  | productEnd {tokens : List Token} {a : Formula}
      (ends : tokens.head? ≠ some .star ∧ tokens.head? ≠ some .slash) :
      Reads (.productTail a) tokens a tokens
  | negative {tokens left : List Token} {a : Formula} (later : Reads .unary tokens a left) :
      Reads .unary (.minus :: tokens) (.neg a) left
  | positive {tokens left : List Token} {a : Formula} (power : Reads .power tokens a left) :
      Reads .unary tokens a left
  | power {tokens rest left : List Token} {a e : Formula} (base : Reads .atom tokens a rest)
      (later : Reads (.powerTail a) rest e left) : Reads .power tokens e left
  /-- The exponent may be a power again, or have a minus. -/
  | caret {tokens left : List Token} {a b : Formula} (exponent : Reads .unary tokens b left) :
      Reads (.powerTail a) (.caret :: tokens) (.pow a b) left
  | powerEnd {tokens : List Token} {a : Formula} (ends : tokens.head? ≠ some .caret) :
      Reads (.powerTail a) tokens a tokens
  | number {text : List Char} {tokens : List Token} :
      Reads .atom (.number text :: tokens) (.number text) tokens
  | named {name : List Char} {tokens : List Token} (ends : tokens.head? ≠ some .leftParen) :
      Reads .atom (.name name :: tokens) (.named name) tokens
  | call {name : List Char} {tokens left : List Token} {a : Formula}
      (argument : Reads .sum tokens a (.rightParen :: left)) :
      Reads .atom (.name name :: .leftParen :: tokens) (.call name a) left
  | group {tokens left : List Token} {a : Formula}
      (inner : Reads .sum tokens a (.rightParen :: left)) :
      Reads .atom (.leftParen :: tokens) a left

/-- A text is a formula. -/
def Parses (text : List Char) (formula : Formula) : Prop :=
  ∃ tokens, Lexes text tokens ∧ Reads .sum tokens formula []

/-- No operand starts here. -/
def Stops (tokens : List Token) : Prop := ∀ token ∈ tokens.head?, token.startsOperand = false

/-! ### Characters -/

theorem isIdentifierChar_of_isDigit {c : Char} (digit : c.isDigit = true) :
    isIdentifierChar c = true := by
  simp [isIdentifierChar, Char.isAlphanum, digit]

theorem isIdentifierChar_of_isIdentifierStart {c : Char} (start : isIdentifierStart c = true) :
    isIdentifierChar c = true := by
  unfold isIdentifierStart at start
  unfold isIdentifierChar Char.isAlphanum
  rw [Bool.or_eq_true] at start ⊢
  rw [Bool.or_eq_true]
  exact start.imp .inl id

theorem not_isDigit_of_isIdentifierStart {c : Char} (start : isIdentifierStart c = true) :
    c.isDigit = false ∧ c ≠ '.' := by
  constructor
  · by_contra digit
    rw [Bool.not_eq_false] at digit
    change ((decide (65 ≤ c.val ∧ c.val ≤ 90) ||
      decide (97 ≤ c.val) && decide (c.val ≤ 122)) || decide (c = '_')) = true at start
    change (decide (48 ≤ c.val) && decide (c.val ≤ 57)) = true at digit
    simp only [Bool.or_eq_true, Bool.and_eq_true, decide_eq_true_eq, UInt32.le_iff_toNat_le]
      at start digit
    rcases start with (upper | lower) | rfl
    · exact absurd (Nat.le_trans upper.1 digit.2) (by decide)
    · exact absurd (Nat.le_trans lower.1 digit.2) (by decide)
    · exact absurd digit (by decide)
  · rintro rfl
    exact absurd start (by decide)

/-- A symbol is in no name or number and is no blank. -/
theorem ends_of_ofChar? {c : Char} {token : Token} (isSymbol : Token.ofChar? c = some token) :
    isIdentifierChar c = false ∧ c ≠ '.' ∧ isSpace c = false := by
  unfold Token.ofChar? at isSymbol
  split at isSymbol
  case h_8 => exact nomatch isSymbol
  all_goals decide

theorem ofChar?_ne_name (c : Char) (name : List Char) : Token.ofChar? c ≠ some (.name name) := by
  unfold Token.ofChar?
  split
  all_goals exact nofun

theorem ends_of_isSpace {c : Char} (blank : isSpace c = true) :
    isIdentifierChar c = false ∧ c ≠ '.' := by
  simp only [isSpace, Bool.or_eq_true, decide_eq_true_eq] at blank
  rcases blank with ((((rfl | rfl) | rfl) | rfl) | rfl) | rfl
  all_goals exact ⟨rfl, by decide⟩

/-! ### Tokens are unique -/

theorem eq_of_span {p : Char → Bool} {text text' rest rest' : List Char}
    (same : text ++ rest = text' ++ rest') (all : ∀ c ∈ text, p c = true)
    (all' : ∀ c ∈ text', p c = true) (stops : ∀ c ∈ rest.head?, p c = false)
    (stops' : ∀ c ∈ rest'.head?, p c = false) : text = text' ∧ rest = rest' := by
  induction text generalizing text' with
  | nil =>
    cases text' with
    | nil => exact ⟨rfl, same⟩
    | cons c text' =>
      rw [List.nil_append] at same
      have stopped := stops c (by rw [same]; rfl)
      exact absurd (all' c List.mem_cons_self) (by rw [stopped]; decide)
  | cons c text ih =>
    cases text' with
    | nil =>
      rw [List.nil_append] at same
      have stopped := stops' c (by rw [← same]; rfl)
      exact absurd (all c List.mem_cons_self) (by rw [stopped]; decide)
    | cons c' text' =>
      obtain ⟨rfl, tails⟩ := List.cons.inj same
      obtain ⟨rfl, rfl⟩ := ih tails (fun c member => all c (List.mem_cons_of_mem _ member))
        (fun c member => all' c (List.mem_cons_of_mem _ member))
      exact ⟨rfl, rfl⟩

theorem not_isDigit_of_not_isIdentifierChar {c : Char} (ends : isIdentifierChar c = false) :
    c.isDigit = false := by
  by_contra digit
  rw [Bool.not_eq_false] at digit
  exact absurd (isIdentifierChar_of_isDigit digit) (by rw [ends]; decide)

/-- Behind the digits of a fraction there is neither another digit nor another point. -/
theorem stops_exponent {exponent rest : List Char} (isExponent : IsExponent exponent)
    (ends : EndsNumber rest) : ∀ c ∈ (exponent ++ rest).head?, c.isDigit = false ∧ c ≠ '.' := by
  rintro c member
  rcases isExponent with rfl | ⟨mark, sign, digits, rfl, isMark, -⟩
  · exact ⟨not_isDigit_of_not_isIdentifierChar (ends c member).1, (ends c member).2⟩
  · cases member
    rcases isMark with rfl | rfl
    · decide
    · decide

theorem all_sign {sign : List Char} (isSign : sign = [] ∨ sign = ['+'] ∨ sign = ['-']) :
    ∀ c ∈ sign, (c == '+' || c == '-') = true := by
  intro c member
  rcases isSign with rfl | rfl | rfl
  · exact absurd member List.not_mem_nil
  · rw [List.mem_singleton.mp member]
    rfl
  · rw [List.mem_singleton.mp member]
    rfl

theorem stops_sign {digits rest : List Char} (all : ∀ c ∈ digits, c.isDigit = true)
    (some_ : digits ≠ []) : ∀ c ∈ (digits ++ rest).head?, (c == '+' || c == '-') = false := by
  obtain ⟨digit, digits, rfl⟩ := List.exists_cons_of_ne_nil some_
  rintro c ⟨⟩
  by_contra isSign
  rw [Bool.not_eq_false, Bool.or_eq_true, beq_iff_eq, beq_iff_eq] at isSign
  have isDigit := all digit List.mem_cons_self
  rcases isSign with rfl | rfl
  · exact nomatch isDigit
  · exact nomatch isDigit

theorem exponent_unique {exponent exponent' rest rest' : List Char}
    (same : exponent ++ rest = exponent' ++ rest') (isExponent : IsExponent exponent)
    (isExponent' : IsExponent exponent') (ends : EndsNumber rest) (ends' : EndsNumber rest') :
    exponent = exponent' ∧ rest = rest' := by
  have stops : ∀ {text : List Char}, EndsNumber text → ∀ c ∈ text.head?, c.isDigit = false :=
    fun ends c member => not_isDigit_of_not_isIdentifierChar (ends c member).1
  have isName : ∀ mark : Char, mark = 'e' ∨ mark = 'E' → isIdentifierChar mark = true := by
    rintro mark (rfl | rfl)
    · rfl
    · rfl
  rcases isExponent with rfl | ⟨mark, sign, digits, rfl, isMark, isSign, all, some_⟩
  · rcases isExponent' with rfl | ⟨mark, sign, digits, rfl, isMark, -⟩
    · exact ⟨rfl, same⟩
    · have stopped := (ends mark (by rw [List.nil_append] at same; rw [same]; rfl)).1
      exact absurd (isName mark isMark) (by rw [stopped]; decide)
  · rcases isExponent' with rfl | ⟨mark', sign', digits', rfl, -, isSign', all', some_'⟩
    · have stopped := (ends' mark (by rw [List.nil_append] at same; rw [← same]; rfl)).1
      exact absurd (isName mark isMark) (by rw [stopped]; decide)
    · rw [List.cons_append, List.cons_append, List.append_assoc, List.append_assoc] at same
      obtain ⟨rfl, signs⟩ := List.cons.inj same
      obtain ⟨rfl, tails⟩ := eq_of_span signs (all_sign isSign) (all_sign isSign')
        (stops_sign all some_) (stops_sign all' some_')
      obtain ⟨rfl, rfl⟩ := eq_of_span tails all all' (stops ends) (stops ends')
      exact ⟨rfl, rfl⟩

theorem fraction_unique {fraction fraction' rest rest' : List Char}
    (same : fraction ++ rest = fraction' ++ rest') (isFraction : IsFraction fraction)
    (isFraction' : IsFraction fraction')
    (stops : ∀ c ∈ rest.head?, c.isDigit = false ∧ c ≠ '.')
    (stops' : ∀ c ∈ rest'.head?, c.isDigit = false ∧ c ≠ '.') :
    fraction = fraction' ∧ rest = rest' := by
  rcases isFraction with rfl | ⟨digits, rfl, all⟩
  · rcases isFraction' with rfl | ⟨digits', rfl, -⟩
    · exact ⟨rfl, same⟩
    · have stopped := stops '.' (by rw [List.nil_append] at same; rw [same]; rfl)
      exact absurd rfl stopped.2
  · rcases isFraction' with rfl | ⟨digits', rfl, all'⟩
    · have stopped := stops' '.' (by rw [List.nil_append] at same; rw [← same]; rfl)
      exact absurd rfl stopped.2
    · obtain ⟨rfl, rfl⟩ := eq_of_span (List.cons.inj same).2 all all'
        (fun c member => (stops c member).1) (fun c member => (stops' c member).1)
      exact ⟨rfl, rfl⟩

theorem stops_fraction {fraction rest : List Char} (isFraction : IsFraction fraction)
    (stops : ∀ c ∈ rest.head?, c.isDigit = false ∧ c ≠ '.') :
    ∀ c ∈ (fraction ++ rest).head?, c.isDigit = false := by
  intro c member
  rcases isFraction with rfl | ⟨digits, rfl, -⟩
  · exact (stops c member).1
  · cases member
    decide

theorem decimal_unique {text text' rest rest' : List Char} (same : text ++ rest = text' ++ rest')
    (decimal : IsDecimal text) (decimal' : IsDecimal text') (ends : EndsNumber rest)
    (ends' : EndsNumber rest') : text = text' ∧ rest = rest' := by
  obtain ⟨whole, fraction, exponent, rfl, all, isFraction, isExponent, -⟩ := decimal
  obtain ⟨whole', fraction', exponent', rfl, all', isFraction', isExponent', -⟩ := decimal'
  have stops := stops_exponent isExponent ends
  have stops' := stops_exponent isExponent' ends'
  simp only [List.append_assoc] at same
  obtain ⟨rfl, fractions⟩ := eq_of_span same all all' (stops_fraction isFraction stops)
    (stops_fraction isFraction' stops')
  obtain ⟨rfl, exponents⟩ := fraction_unique fractions isFraction isFraction' stops stops'
  obtain ⟨rfl, rfl⟩ := exponent_unique exponents isExponent isExponent' ends ends'
  exact ⟨rfl, rfl⟩

theorem IsDecimal.start {text : List Char} (decimal : IsDecimal text) :
    ∃ c later, text = c :: later ∧ (c.isDigit = true ∨ c = '.') := by
  obtain ⟨whole, fraction, exponent, rfl, all, isFraction, -, digit, member, -⟩ := decimal
  cases whole with
  | cons c whole => exact ⟨c, _, rfl, .inl (all c List.mem_cons_self)⟩
  | nil =>
    rcases isFraction with rfl | ⟨digits, rfl, -⟩
    · exact absurd member List.not_mem_nil
    · exact ⟨'.', _, rfl, .inr rfl⟩

/-- No number starts with a symbol or like a name. -/
theorem IsDecimal.ne_of_start {c : Char} {text rest rest' : List Char} (decimal : IsDecimal text)
    (other : (∃ token, Token.ofChar? c = some token) ∨ isIdentifierStart c = true) :
    c :: rest ≠ text ++ rest' := by
  intro same
  obtain ⟨c', later, rfl, isStart⟩ := decimal.start
  obtain ⟨rfl, -⟩ := List.cons.inj same
  rcases other with ⟨token, isSymbol⟩ | isName
  · obtain ⟨noName, noPoint, -⟩ := ends_of_ofChar? isSymbol
    rcases isStart with isDigit | point
    · exact absurd (isIdentifierChar_of_isDigit isDigit) (by rw [noName]; decide)
    · exact noPoint point
  · obtain ⟨noDigit, noPoint⟩ := not_isDigit_of_isIdentifierStart isName
    rcases isStart with isDigit | point
    · exact absurd isDigit (by rw [noDigit]; decide)
    · exact noPoint point

theorem not_isIdentifierStart_of_ofChar? {c : Char} {token : Token}
    (isSymbol : Token.ofChar? c = some token) : isIdentifierStart c ≠ true := by
  intro start
  have isChar := isIdentifierChar_of_isIdentifierStart start
  exact absurd isChar (by rw [(ends_of_ofChar? isSymbol).1]; decide)

theorem IsLexeme.unique {token token' : Token} {text text' rest rest' : List Char}
    (lexeme : IsLexeme token text rest) (lexeme' : IsLexeme token' text' rest')
    (same : text ++ rest = text' ++ rest') : token = token' ∧ text = text' ∧ rest = rest' := by
  -- The first character tells names, numbers and symbols apart; names and numbers go on as far as
  -- they can.
  cases lexeme with
  | symbol isSymbol =>
    cases lexeme' with
    | symbol isSymbol' =>
      obtain ⟨rfl, tails⟩ := List.cons.inj same
      exact ⟨Option.some.inj (isSymbol.symm.trans isSymbol'), rfl, tails⟩
    | name start =>
      obtain ⟨rfl, -⟩ := List.cons.inj same
      exact absurd start (not_isIdentifierStart_of_ofChar? isSymbol)
    | number decimal => exact absurd same (decimal.ne_of_start (.inl ⟨_, isSymbol⟩))
  | name start all ends =>
    cases lexeme' with
    | symbol isSymbol =>
      obtain ⟨rfl, -⟩ := List.cons.inj same
      exact absurd start (not_isIdentifierStart_of_ofChar? isSymbol)
    | name _ all' ends' =>
      rw [List.cons_append, List.cons_append] at same
      obtain ⟨rfl, tails⟩ := List.cons.inj same
      obtain ⟨rfl, rfl⟩ := eq_of_span tails all all' ends ends'
      exact ⟨rfl, rfl, rfl⟩
    | number decimal => exact absurd same (decimal.ne_of_start (.inr start))
  | number decimal ends =>
    cases lexeme' with
    | symbol isSymbol => exact absurd same.symm (decimal.ne_of_start (.inl ⟨_, isSymbol⟩))
    | name start => exact absurd same.symm (decimal.ne_of_start (.inr start))
    | number decimal' ends' =>
      obtain ⟨rfl, rfl⟩ := decimal_unique same decimal decimal' ends ends'
      exact ⟨rfl, rfl, rfl⟩

/-- The text of a token does not start with a blank. -/
theorem IsLexeme.start {token : Token} {text rest : List Char} (lexeme : IsLexeme token text rest) :
    ∃ c later, text = c :: later ∧ isSpace c = false := by
  have noBlank : ∀ c, isIdentifierChar c = true ∨ c = '.' → isSpace c = false := by
    intro c inside
    by_contra blank
    rw [Bool.not_eq_false] at blank
    obtain ⟨noName, noPoint⟩ := ends_of_isSpace blank
    rcases inside with isName | point
    · exact absurd isName (by rw [noName]; decide)
    · exact noPoint point
  cases lexeme with
  | symbol isSymbol => exact ⟨_, [], rfl, (ends_of_ofChar? isSymbol).2.2⟩
  | name start => exact ⟨_, _, rfl, noBlank _ (.inl (isIdentifierChar_of_isIdentifierStart start))⟩
  | number decimal =>
    obtain ⟨c, later, rfl, isStart⟩ := decimal.start
    exact ⟨c, later, rfl, noBlank c (isStart.imp_left isIdentifierChar_of_isDigit)⟩

theorem Lexes.unique {text : List Char} {tokens tokens' : List Token} (lexes : Lexes text tokens)
    (lexes' : Lexes text tokens') : tokens = tokens' := by
  -- On the first run: both skip the same blanks and take the same lexeme.
  induction lexes generalizing tokens' with
  | nil =>
    generalize empty : ([] : List Char) = text at lexes'
    cases lexes' with
    | nil => rfl
    | space => exact nomatch empty
    | token lexeme =>
      obtain ⟨c, later, rfl, -⟩ := lexeme.start
      exact nomatch empty
  | @space c rest tokens blank _ ih =>
    generalize same : c :: rest = text at lexes'
    cases lexes' with
    | nil => exact nomatch same
    | space _ later' =>
      obtain ⟨rfl, rfl⟩ := List.cons.inj same
      exact ih later'
    | token lexeme =>
      obtain ⟨c', later, rfl, noBlank⟩ := lexeme.start
      obtain ⟨rfl, -⟩ := List.cons.inj same
      exact absurd blank (by rw [noBlank]; decide)
  | @token token text rest tokens lexeme _ ih =>
    generalize same : text ++ rest = text' at lexes'
    cases lexes' with
    | nil =>
      obtain ⟨c, later, rfl, -⟩ := lexeme.start
      exact nomatch same
    | space blank =>
      obtain ⟨c, later, rfl, noBlank⟩ := lexeme.start
      obtain ⟨rfl, -⟩ := List.cons.inj same
      exact absurd blank (by rw [noBlank]; decide)
    | token lexeme' later' =>
      obtain ⟨rfl, rfl, rfl⟩ := lexeme.unique lexeme' same
      rw [ih later']

theorem Lexes.blank {gap rest : List Char} {tokens : List Token}
    (blank : ∀ c ∈ gap, isSpace c = true) (later : Lexes rest tokens) :
    Lexes (gap ++ rest) tokens := by
  induction gap with
  | nil => exact later
  | cons c gap ih =>
    exact .space (blank c List.mem_cons_self) (ih fun c member => blank c (.tail _ member))

theorem Lexes.symbol {c : Char} {token : Token} {rest : List Char} {tokens : List Token}
    (isSymbol : Token.ofChar? c = some token) (later : Lexes rest tokens) :
    Lexes (c :: rest) (token :: tokens) :=
  .token (.symbol isSymbol) later

/-! ### What follows a token -/

/-- A name or a number that ends before a text ends before the other as well. -/
structure KeepsEnds (rest rest' : List Char) : Prop where
  name : EndsName rest → EndsName rest'
  number : EndsNumber rest → EndsNumber rest'

theorem KeepsEnds.of_head {rest rest' : List Char} (same : rest.head? = rest'.head?) :
    KeepsEnds rest rest' := by
  constructor
  · intro ends c head
    exact ends c (same ▸ head)
  · intro ends c head
    exact ends c (same ▸ head)

/-- Behind a gap, or at once, a text goes on alike. -/
theorem KeepsEnds.gap {gap rest rest' : List Char} (keeps : KeepsEnds rest rest') :
    KeepsEnds (gap ++ rest) (gap ++ rest') := by
  cases gap with
  | nil => exact keeps
  | cons => exact .of_head rfl

theorem endsNumber_nil : EndsNumber [] := fun _ head => nomatch head

theorem endsNumber_cons {c : Char} (noChar : isIdentifierChar c = false) (noPoint : c ≠ '.')
    (rest : List Char) : EndsNumber (c :: rest) := by
  rintro _ ⟨⟩
  exact ⟨noChar, noPoint⟩

theorem IsLexeme.follow {token : Token} {text rest rest' : List Char}
    (lexeme : IsLexeme token text rest) (keeps : KeepsEnds rest rest') :
    IsLexeme token text rest' := by
  cases lexeme with
  | symbol isSymbol => exact .symbol isSymbol
  | name start all ends => exact .name start all (keeps.name ends)
  | number decimal ends => exact .number decimal (keeps.number ends)

/-! ### Readings are unique -/

theorem Reads.unique {part : Part} {tokens left left' : List Token} {a a' : Formula}
    (reads : Reads part tokens a left) (reads' : Reads part tokens a' left') :
    a = a' ∧ left = left' := by
  -- On the first reading. The token at the head decides the rule of the second: an operator
  -- excludes the end of its part, and the other way round.
  induction reads generalizing a' left' with
  | sum _ _ first later =>
    cases reads' with
    | sum first' later' =>
      obtain ⟨rfl, rfl⟩ := first first'
      exact later later'
  | plus _ _ next later =>
    cases reads' with
    | plus next' later' =>
      obtain ⟨rfl, rfl⟩ := next next'
      exact later later'
    | sumEnd ends => exact absurd rfl ends.1
  | minus _ _ next later =>
    cases reads' with
    | minus next' later' =>
      obtain ⟨rfl, rfl⟩ := next next'
      exact later later'
    | sumEnd ends => exact absurd rfl ends.2
  | sumEnd ends =>
    cases reads' with
    | plus => exact absurd rfl ends.1
    | minus => exact absurd rfl ends.2
    | sumEnd => exact ⟨rfl, rfl⟩
  | product _ _ first later =>
    cases reads' with
    | product first' later' =>
      obtain ⟨rfl, rfl⟩ := first first'
      exact later later'
  | times _ _ next later =>
    cases reads' with
    | times next' later' =>
      obtain ⟨rfl, rfl⟩ := next next'
      exact later later'
    | productEnd ends => exact absurd rfl ends.1
  | divide _ _ next later =>
    cases reads' with
    | divide next' later' =>
      obtain ⟨rfl, rfl⟩ := next next'
      exact later later'
    | productEnd ends => exact absurd rfl ends.2
  | productEnd ends =>
    cases reads' with
    | times => exact absurd rfl ends.1
    | divide => exact absurd rfl ends.2
    | productEnd => exact ⟨rfl, rfl⟩
  | negative _ later =>
    cases reads' with
    | negative later' =>
      obtain ⟨rfl, rfl⟩ := later later'
      exact ⟨rfl, rfl⟩
    | positive power => cases power with | power base => cases base
  | positive power ih =>
    cases reads' with
    | negative => cases power with | power base => cases base
    | positive power' => exact ih power'
  | power _ _ base later =>
    cases reads' with
    | power base' later' =>
      obtain ⟨rfl, rfl⟩ := base base'
      exact later later'
  | caret _ exponent =>
    cases reads' with
    | caret exponent' =>
      obtain ⟨rfl, rfl⟩ := exponent exponent'
      exact ⟨rfl, rfl⟩
    | powerEnd ends => exact absurd rfl ends
  | powerEnd ends =>
    cases reads' with
    | caret => exact absurd rfl ends
    | powerEnd => exact ⟨rfl, rfl⟩
  | number =>
    cases reads' with
    | number => exact ⟨rfl, rfl⟩
  | named ends =>
    cases reads' with
    | named => exact ⟨rfl, rfl⟩
    | call => exact absurd rfl ends
  | call _ argument =>
    cases reads' with
    | named ends => exact absurd rfl ends
    | call argument' =>
      obtain ⟨rfl, same⟩ := argument argument'
      exact ⟨rfl, (List.cons.inj same).2⟩
  | group _ inner =>
    cases reads' with
    | group inner' =>
      obtain ⟨rfl, same⟩ := inner inner'
      exact ⟨rfl, (List.cons.inj same).2⟩

theorem Reads.suffix {part : Part} {tokens left : List Token} {a : Formula}
    (reads : Reads part tokens a left) : left <:+ tokens := by
  induction reads with
  | sum _ _ first later => exact later.trans first
  | plus _ _ next later | minus _ _ next later =>
    exact later.trans (next.trans (List.suffix_cons _ _))
  | product _ _ first later => exact later.trans first
  | times _ _ next later | divide _ _ next later =>
    exact later.trans (next.trans (List.suffix_cons _ _))
  | negative _ later => exact later.trans (List.suffix_cons _ _)
  | positive _ ih => exact ih
  | power _ _ base later => exact later.trans base
  | caret _ exponent => exact exponent.trans (List.suffix_cons _ _)
  | sumEnd | productEnd | powerEnd => exact List.suffix_refl _
  | number | named => exact List.suffix_cons _ _
  | call _ argument =>
    exact (List.suffix_cons _ _).trans
      (argument.trans ((List.suffix_cons _ _).trans (List.suffix_cons _ _)))
  | group _ inner => exact (List.suffix_cons _ _).trans (inner.trans (List.suffix_cons _ _))

theorem stops_cons {token : Token} (stops : token.startsOperand = false) (tokens : List Token) :
    Stops (token :: tokens) := by
  rintro _ ⟨⟩
  exact stops

/-- Where the rest of a sum, a product or a power stops, an operand has stopped. -/
theorem Reads.stops {part : Part} {tokens left : List Token} {a : Formula}
    (reads : Reads part tokens a left) (stops : Stops left)
    (isTail : ∃ b, part = .sumTail b ∨ part = .productTail b ∨ part = .powerTail b) :
    Stops tokens := by
  obtain ⟨b, same⟩ := isTail
  cases reads with
  | sumEnd | productEnd | powerEnd => exact stops
  | plus | minus | times | divide | caret => exact stops_cons rfl _
  | sum | product | negative | positive | power | number | named | call | group =>
    rcases same with same | same | same
    · exact nomatch same
    · exact nomatch same
    · exact nomatch same

/-- A text is one formula at most. -/
theorem Parses.unique {text : List Char} {formula formula' : Formula} (parses : Parses text formula)
    (parses' : Parses text formula') : formula = formula' := by
  obtain ⟨tokens, lexes, reads⟩ := parses
  obtain ⟨tokens', lexes', reads'⟩ := parses'
  cases lexes.unique lexes'
  exact (reads.unique reads').1

/-! ### Values -/

/-- The meaning of what a formula has besides sums, products and small powers. -/
structure Interpretation (R : Type*) where
  number : List Char → R
  function : List Char → R → R
  divide : R → R → R
  power : R → R → R

/-- The number that decimal digits denote. -/
def ofDigits (digits : List Char) : ℕ :=
  digits.foldl (fun value c => 10 * value + (c.toNat - '0'.toNat)) 0

namespace Formula

/-- The exponent that a whole number is. -/
def exponent? : Formula → Option ℕ
  | .number text => if text.all Char.isDigit then some (ofDigits text) else none
  | _ => none

/-- A power with a whole exponent is a product of so many factors. -/
def value {R : Type*} [CommRing R] (I : Interpretation R) (ρ : List Char → R) : Formula → R
  | number text => I.number text
  | named name => ρ name
  | call function argument => I.function function (argument.value I ρ)
  | neg a => -a.value I ρ
  | add a b => a.value I ρ + b.value I ρ
  | sub a b => a.value I ρ - b.value I ρ
  | mul a b => a.value I ρ * b.value I ρ
  | div a b => I.divide (a.value I ρ) (b.value I ρ)
  | pow a b =>
    match b.exponent? with
    | some n => a.value I ρ ^ n
    | none => I.power (a.value I ρ) (b.value I ρ)

/-- There is no power in a formula. -/
def PowerFree : Formula → Prop
  | number _ | named _ => True
  | call _ a | neg a => a.PowerFree
  | add a b | sub a b | mul a b | div a b => a.PowerFree ∧ b.PowerFree
  | pow _ _ => False

end Formula

end RtCore.Foundation
