import Mathlib.Data.List.TakeWhile
import RtCore.Foundation.Formula

/-!
# Formulas of sensors in a log file

`Mdf4LoggerSensorReading::ToMdfFormula` writes the expression of a sensor for the readers of a log
file, which know no power: a small one becomes a product. The expression is cut into tokens, and the
text between them is kept. A position in the expression is the text from there on.

## Main definitions

* `tokenizeFormula` — the tokens of an expression
* `toMdfFormula` — the formula of an expression
* `Laid` — tokens stand in a text, with blanks around them

## Main results

* `tokenizeFrom_eq` — the tokens do not depend on the bound of the loop
* `laid_tokenizeFormula` — the tokens of an expression stand in it
-/

namespace RtCore.Logging

open RtCore.Foundation

namespace FormulaToken

/-- What a token is. -/
inductive Kind
  | number
  | input
  | function
  | operator
  | power
  | opening
  | closing
deriving DecidableEq, Repr

end FormulaToken

/-- A token of an expression, with where it stands. -/
structure FormulaToken where
  kind : FormulaToken.Kind
  text : List Char
  /-- The expression from the token on. -/
  begin : List Char
deriving DecidableEq, Repr

/-- `FORMULA_FUNCTIONS` -/
def formulaFunctions : List (List Char) :=
  [['s', 'i', 'n'], ['c', 'o', 's'], ['t', 'a', 'n'], ['s', 'q', 'r', 't'], ['a', 'b', 's'],
    ['l', 'o', 'g']]

/-- `MAX_EXPANDED_EXPONENT` -/
def maxExpandedExponent : Char := '4'

/-- The text behind its leading spaces. -/
def skipSpaces (text : List Char) : List Char := text.dropWhile isSpace

/-- The text behind its leading digits. -/
def skipDigits (text : List Char) : List Char := text.dropWhile Char.isDigit

/-- `substr` from a position up to a later one. -/
def between (start stop : List Char) : List Char := start.take (start.length - stop.length)

/-! ### Tokens -/

/-- The text behind a sign, if there is one. -/
def skipSign : List Char → List Char
  | [] => []
  | c :: rest => if c = '+' ∨ c = '-' then rest else c :: rest

/-- The text behind an exponent, if there is one. -/
def skipExponent : List Char → Option (List Char)
  | [] => some []
  | c :: rest =>
    if c = 'e' ∨ c = 'E' then
      let exponentEnd := skipDigits (skipSign rest)
      if exponentEnd.length = (skipSign rest).length then none else some exponentEnd
    else some (c :: rest)

/-- The text behind a point and its digits, and how many these are. -/
def skipFraction : List Char → List Char × ℕ
  | '.' :: rest => (skipDigits rest, rest.length - (skipDigits rest).length)
  | text => (text, 0)

/-- The text behind a number. -/
def scanNumber (text : List Char) : Option (List Char) :=
  let integerEnd := skipDigits text
  let digitCount := text.length - integerEnd.length
  -- Readers reject `05`.
  if 1 < digitCount ∧ text.head? = some '0' then none
  else
    let fraction := skipFraction integerEnd
    if digitCount + fraction.2 = 0 then none
    else
      (skipExponent fraction.1).bind fun rest =>
        if rest.head?.any fun c => isIdentifierChar c || c = '.' then none else some rest

/-- The kind of a symbol; `*` and `/` need a left operand. -/
def symbolKind (previous : Option FormulaToken.Kind) : Char → Option FormulaToken.Kind
  | '+' | '-' => some .operator
  | '*' | '/' =>
    if previous = none ∨ previous = some .operator ∨ previous = some .power ∨
        previous = some .opening then none
    else some .operator
  | '^' => some .power
  | '(' => some .opening
  | ')' => some .closing
  | _ => none

/-- The kind of the next token and the text behind it. -/
def scanToken (previous : Option FormulaToken.Kind) (c : Char) (rest : List Char) :
    Option (FormulaToken.Kind × List Char) :=
  if isIdentifierStart c then
    let after := (c :: rest).dropWhile isIdentifierChar
    let name := between (c :: rest) after
    let isCall := (skipSpaces after).head? = some '('
    if name = ['x'] ∧ ¬isCall then some (.input, after)
    else if isCall ∧ name ∈ formulaFunctions then some (.function, after)
    else none
  else if c.isDigit ∨ c = '.' then (scanNumber (c :: rest)).map fun after => (.number, after)
  else (symbolKind previous c).map fun kind => (kind, rest)

/-- The loop of `TokenizeFormula`, for so many tokens at most. -/
def tokenizeFrom : ℕ → Option FormulaToken.Kind → List Char → Option (List FormulaToken)
  | 0, _, _ => none
  | bound + 1, previous, text =>
    match skipSpaces text with
    | [] => some []
    | c :: rest =>
      match scanToken previous c rest with
      | none => none
      | some (kind, after) =>
        (tokenizeFrom bound (some kind) after).map fun later =>
          { kind, text := between (c :: rest) after, begin := c :: rest } :: later

/-- `TokenizeFormula`: the tokens of an expression, none if some of it is no token. -/
def tokenizeFormula (expression : List Char) : Option (List FormulaToken) :=
  tokenizeFrom (expression.length + 1) none expression

/-! ### Formulas -/

/-- `token_text` -/
def FormulaToken.mdfText (token : FormulaToken) : List Char :=
  if token.kind = .input then ['X'] else token.text

/-- A product of so many factors, in parentheses. -/
def expandPower (factor : List Char) (factorCount : ℕ) : List Char :=
  '(' :: ((List.range factorCount).flatMap fun i =>
    (if 0 < i then [' ', '*', ' '] else []) ++ factor) ++ [')']

/-- A power comes next. -/
def isPower (tokens : List FormulaToken) : Bool :=
  tokens.head?.any fun token => token.kind = .power

/-- A whole exponent that is expanded. -/
def isSmallExponent (exponent : FormulaToken) (later : List FormulaToken) : Bool :=
  exponent.kind = .number &&
    (match exponent.text with
      | [c] => decide ('1' ≤ c ∧ c ≤ maxExpandedExponent)
      | _ => false) &&
    !isPower later

/-- The loop of `ToMdfFormula`, from a position and the tokens behind it on. -/
def convertTokens (pos : List Char) : List FormulaToken → Option (List Char)
  | [] => some []
  | token :: later =>
    -- Only reached when the left operand is not a single token.
    if token.kind = .power then none
    else if isPower later then
      match later with
      | _ :: exponent :: after =>
        if (token.kind = .input ∨ token.kind = .number) ∧ isSmallExponent exponent after then
          (convertTokens (exponent.begin.drop exponent.text.length) after).map fun formula =>
            between pos token.begin ++
              (expandPower token.mdfText (exponent.text.headI.toNat - '0'.toNat) ++ formula)
        else none
      | _ => none
    else
      (convertTokens (token.begin.drop token.text.length) later).map fun formula =>
        between pos token.begin ++ (token.mdfText ++ formula)

/-- `ToMdfFormula`: the expression in the syntax of the file format, none if it has none. -/
def toMdfFormula (expression : List Char) : Option (List Char) :=
  match tokenizeFormula expression with
  | none => none
  | some tokens =>
    if tokens.any fun token => token.kind = .input then
      match tokens with
      | [] => none
      | front :: _ => convertTokens front.begin tokens
    else none

/-! ### Positions -/

theorem between_append (text rest : List Char) : between (text ++ rest) rest = text := by
  rw [between, List.length_append, Nat.add_sub_cancel, List.take_left]

/-- A loop over characters stops behind those that pass. -/
theorem dropWhile_spec (p : Char → Bool) (text : List Char) :
    ∃ passed, text = passed ++ text.dropWhile p ∧ (∀ c ∈ passed, p c = true) ∧
      ∀ c ∈ (text.dropWhile p).head?, p c = false := by
  refine ⟨text.takeWhile p, List.takeWhile_append_dropWhile.symm,
    fun c member => List.mem_takeWhile_imp member, ?_⟩
  intro c head
  have stops := List.head?_dropWhile_not p text
  rw [Option.mem_def.mp head] at stops
  exact stops

/-! ### Numbers -/

theorem skipSign_spec (text : List Char) :
    ∃ sign, text = sign ++ skipSign text ∧ (sign = [] ∨ sign = ['+'] ∨ sign = ['-']) := by
  cases text with
  | nil => exact ⟨[], rfl, .inl rfl⟩
  | cons c rest =>
    by_cases isSign : c = '+' ∨ c = '-'
    · refine ⟨[c], ?_, .inr (isSign.imp (fun same => by rw [same]) fun same => by rw [same])⟩
      rw [skipSign, if_pos isSign, List.singleton_append]
    · exact ⟨[], by rw [skipSign, if_neg isSign, List.nil_append], .inl rfl⟩

theorem skipExponent_spec {text rest : List Char} (skips : skipExponent text = some rest) :
    ∃ exponent, text = exponent ++ rest ∧ IsExponent exponent := by
  cases text with
  | nil =>
    cases skips
    exact ⟨[], rfl, .inl rfl⟩
  | cons mark later =>
    by_cases isMark : mark = 'e' ∨ mark = 'E'
    · rw [skipExponent, if_pos isMark] at skips
      obtain ⟨sign, signed, isSign⟩ := skipSign_spec later
      obtain ⟨digits, passed, all, -⟩ := dropWhile_spec Char.isDigit (skipSign later)
      dsimp only at skips
      split_ifs at skips with empty
      cases skips
      refine ⟨mark :: (sign ++ digits), ?_, .inr ⟨mark, sign, digits, rfl, isMark, isSign, all, ?_⟩⟩
      · rw [List.cons_append, List.append_assoc]
        nth_rewrite 1 [signed]
        nth_rewrite 1 [passed]
        rfl
      · rintro rfl
        exact empty (congrArg List.length passed).symm
    · rw [skipExponent, if_neg isMark] at skips
      cases skips
      exact ⟨[], rfl, .inl rfl⟩

theorem skipFraction_spec (text : List Char) :
    ∃ fraction, text = fraction ++ (skipFraction text).1 ∧ IsFraction fraction ∧
      (0 < (skipFraction text).2 → ∃ c ∈ fraction, c.isDigit = true) := by
  unfold skipFraction
  split
  next rest =>
    obtain ⟨digits, passed, all, -⟩ := dropWhile_spec Char.isDigit rest
    refine ⟨'.' :: digits, congrArg ('.' :: ·) passed, .inr ⟨digits, rfl, all⟩, ?_⟩
    intro some_
    cases digits with
    | nil =>
      have same : rest.length = (skipDigits rest).length := congrArg List.length passed
      omega
    | cons c digits => exact ⟨c, by simp, all c List.mem_cons_self⟩
  next => exact ⟨[], rfl, .inl rfl, fun some_ => absurd some_ (Nat.lt_irrefl 0)⟩

/-- What is scanned is a decimal number that does not go on behind it. -/
theorem scanNumber_spec {text rest : List Char} (scans : scanNumber text = some rest) :
    ∃ number, text = number ++ rest ∧ IsDecimal number ∧ EndsNumber rest := by
  unfold scanNumber at scans
  dsimp only at scans
  split_ifs at scans with leadingZero noDigit
  obtain ⟨after, skips, ends⟩ := Option.bind_eq_some_iff.mp scans
  split_ifs at ends with goesOn
  cases ends
  obtain ⟨whole, passed, all, -⟩ := dropWhile_spec Char.isDigit text
  obtain ⟨fraction, passedFraction, isFraction, fractionDigit⟩ :=
    skipFraction_spec (skipDigits text)
  obtain ⟨exponent, passedExponent, isExponent⟩ := skipExponent_spec skips
  refine ⟨whole ++ (fraction ++ exponent), ?_,
    ⟨whole, fraction, exponent, rfl, all, isFraction, isExponent, ?_⟩, ?_⟩
  · rw [List.append_assoc, List.append_assoc, ← passedExponent, ← passedFraction]
    exact passed
  · cases whole with
    | cons c whole => exact ⟨c, by simp, all c List.mem_cons_self⟩
    | nil =>
      have same : text.length = (skipDigits text).length := congrArg List.length passed
      obtain ⟨c, member, isDigit⟩ := fractionDigit (by omega)
      exact ⟨c, by simpa using member, isDigit⟩
  · intro c head
    rw [Option.mem_def.mp head] at goesOn
    simpa using goesOn

/-! ### Tokens in a text -/

/-- The tokens that are of a kind. -/
def FormulaToken.Kind.Is (text : List Char) : FormulaToken.Kind → Token → Prop
  | .number, token => token = .number text
  | .input, token => text = ['x'] ∧ token = .name text
  | .function, token => text ∈ formulaFunctions ∧ token = .name text
  | .operator, token => token ∈ [Token.plus, .minus, .star, .slash]
  | .power, token => token = .caret
  | .opening, token => token = .leftParen
  | .closing, token => token = .rightParen

/-- The text of a symbol is its character. -/
theorem symbolKind_spec {previous : Option FormulaToken.Kind} {c : Char}
    {kind : FormulaToken.Kind} (isKind : symbolKind previous c = some kind) :
    ∃ token, Token.ofChar? c = some token ∧ kind.Is [c] token := by
  unfold symbolKind at isKind
  split at isKind
  case h_1 =>
    cases isKind
    exact ⟨.plus, rfl, by simp [FormulaToken.Kind.Is]⟩
  case h_2 =>
    cases isKind
    exact ⟨.minus, rfl, by simp [FormulaToken.Kind.Is]⟩
  case h_3 =>
    split_ifs at isKind
    cases isKind
    exact ⟨.star, rfl, by simp [FormulaToken.Kind.Is]⟩
  case h_4 =>
    split_ifs at isKind
    cases isKind
    exact ⟨.slash, rfl, by simp [FormulaToken.Kind.Is]⟩
  case h_5 =>
    cases isKind
    exact ⟨.caret, rfl, rfl⟩
  case h_6 =>
    cases isKind
    exact ⟨.leftParen, rfl, rfl⟩
  case h_7 =>
    cases isKind
    exact ⟨.rightParen, rfl, rfl⟩
  case h_8 => exact nomatch isKind

/-- A scanned token stands before the text behind it; a name is `x` or is called. -/
theorem scanToken_spec {previous : Option FormulaToken.Kind} {c : Char} {rest after : List Char}
    {kind : FormulaToken.Kind} (scans : scanToken previous c rest = some (kind, after)) :
    ∃ text token, c :: rest = text ++ after ∧ IsLexeme token text after ∧ kind.Is text token ∧
      ∀ name, token = .name name → (name = ['x'] ↔ (skipSpaces after).head? ≠ some '(') := by
  unfold scanToken at scans
  -- A name, then a number, then a symbol, as in the source.
  by_cases start : isIdentifierStart c = true
  · obtain ⟨passed, same, all, ends⟩ := dropWhile_spec isIdentifierChar rest
    have behind : (c :: rest).dropWhile isIdentifierChar = rest.dropWhile isIdentifierChar :=
      List.dropWhile_cons_of_pos (isIdentifierChar_of_isIdentifierStart start)
    have name : between (c :: rest) (rest.dropWhile isIdentifierChar) = c :: passed := by
      nth_rewrite 1 [same]
      exact between_append (c :: passed) _
    have lexeme := IsLexeme.name start all ends
    rw [if_pos start] at scans
    dsimp only at scans
    rw [behind, name] at scans
    refine ⟨c :: passed, .name (c :: passed), ?_⟩
    split_ifs at scans with isInput isFunction
    · cases scans
      refine ⟨congrArg (c :: ·) same, lexeme, ⟨isInput.1, rfl⟩, ?_⟩
      rintro _ ⟨⟩
      exact iff_of_true isInput.1 isInput.2
    · cases scans
      refine ⟨congrArg (c :: ·) same, lexeme, ⟨isFunction.2, rfl⟩, ?_⟩
      rintro _ ⟨⟩
      refine iff_of_false ?_ (not_not.mpr isFunction.1)
      intro isInput
      rw [isInput] at isFunction
      exact absurd isFunction.2 (by decide)
  · rw [if_neg start] at scans
    split_ifs at scans with isNumber
    · obtain ⟨_, scansNumber, same⟩ := Option.map_eq_some_iff.mp scans
      cases same
      obtain ⟨number, same, decimal, ends⟩ := scanNumber_spec scansNumber
      exact ⟨number, .number number, same, .number decimal ends, rfl, nofun⟩
    · obtain ⟨_, isKind, same⟩ := Option.map_eq_some_iff.mp scans
      cases same
      obtain ⟨token, isSymbol, is⟩ := symbolKind_spec isKind
      refine ⟨[c], token, rfl, .symbol isSymbol, is, ?_⟩
      rintro name rfl
      exact absurd isSymbol (ofChar?_ne_name c name)

/-- A token that was scanned is not empty. -/
theorem length_lt_of_scanToken {previous : Option FormulaToken.Kind} {c : Char}
    {rest after : List Char} {kind : FormulaToken.Kind}
    (scans : scanToken previous c rest = some (kind, after)) : after.length ≤ rest.length := by
  obtain ⟨text, token, same, lexeme, -⟩ := scanToken_spec scans
  obtain ⟨c', later, rfl, -⟩ := lexeme.start
  have lengths := congrArg List.length same
  rw [List.length_append, List.length_cons, List.length_cons] at lengths
  omega

/-- The loop ends within as many tokens as there are characters. -/
theorem tokenizeFrom_eq {bound bound' : ℕ} {previous : Option FormulaToken.Kind}
    {text : List Char} (enough : text.length < bound) (enough' : text.length < bound') :
    tokenizeFrom bound previous text = tokenizeFrom bound' previous text := by
  induction bound generalizing bound' previous text with
  | zero => exact absurd enough (Nat.not_lt_zero _)
  | succ bound ih =>
    cases bound' with
    | zero => exact absurd enough' (Nat.not_lt_zero _)
    | succ bound' =>
      have shorter : (skipSpaces text).length ≤ text.length := (List.dropWhile_sublist _).length_le
      rw [tokenizeFrom, tokenizeFrom]
      cases behind : skipSpaces text with
      | nil => rfl
      | cons c rest =>
        rw [behind, List.length_cons] at shorter
        dsimp only
        cases scans : scanToken previous c rest with
        | none => rfl
        | some scanned =>
          obtain ⟨kind, after⟩ := scanned
          have few := length_lt_of_scanToken scans
          dsimp only
          rw [@ih bound' (some kind) after (by omega) (by omega)]

/-- Tokens stand in a text, with blanks around them. -/
inductive Laid : List Char → List FormulaToken → List Token → Prop
  | nil {text : List Char} (blank : ∀ c ∈ text, isSpace c = true) : Laid text [] []
  | cons {gap rest : List Char} {token : FormulaToken} {later : List FormulaToken} {t : Token}
      {ts : List Token} (blank : ∀ c ∈ gap, isSpace c = true) (lexeme : IsLexeme t token.text rest)
      (is : token.kind.Is token.text t) (begin : token.begin = token.text ++ rest)
      (call : ∀ name, t = .name name → (name = ['x'] ↔ (skipSpaces rest).head? ≠ some '('))
      (laid : Laid rest later ts) : Laid (gap ++ (token.text ++ rest)) (token :: later) (t :: ts)

theorem laid_tokenizeFrom {bound : ℕ} {previous : Option FormulaToken.Kind} {text : List Char}
    {tokens : List FormulaToken} (tokenizes : tokenizeFrom bound previous text = some tokens) :
    ∃ ts, Laid text tokens ts := by
  induction bound generalizing previous text tokens with
  | zero => exact nomatch tokenizes
  | succ bound ih =>
    obtain ⟨gap, same, blank, -⟩ := dropWhile_spec isSpace text
    change text = gap ++ skipSpaces text at same
    rw [tokenizeFrom] at tokenizes
    cases behind : skipSpaces text with
    | nil =>
      rw [behind] at tokenizes same
      cases tokenizes
      rw [List.append_nil] at same
      exact ⟨[], .nil (same ▸ blank)⟩
    | cons c rest =>
      rw [behind] at tokenizes same
      dsimp only at tokenizes
      cases scans : scanToken previous c rest with
      | none =>
        rw [scans] at tokenizes
        exact nomatch tokenizes
      | some scanned =>
        obtain ⟨kind, after⟩ := scanned
        rw [scans] at tokenizes
        obtain ⟨later, tokenizesLater, same'⟩ := Option.map_eq_some_iff.mp tokenizes
        cases same'
        obtain ⟨token, t, split, lexeme, is, call⟩ := scanToken_spec scans
        obtain ⟨ts, laid⟩ := ih tokenizesLater
        refine ⟨t :: ts, ?_⟩
        rw [same, split, between_append]
        exact @Laid.cons gap after { kind, text := token, begin := token ++ after } later t ts blank
          lexeme is rfl call laid

/-- The tokens of an expression stand in it. -/
theorem laid_tokenizeFormula {expression : List Char} {tokens : List FormulaToken}
    (tokenizes : tokenizeFormula expression = some tokens) : ∃ ts, Laid expression tokens ts :=
  laid_tokenizeFrom tokenizes

theorem Laid.lexes {text : List Char} {tokens : List FormulaToken} {ts : List Token}
    (laid : Laid text tokens ts) : Lexes text ts := by
  induction laid with
  | nil blank =>
    have lexes := Lexes.blank blank .nil
    rwa [List.append_nil] at lexes
  | cons blank lexeme _ _ _ _ ih => exact Lexes.blank blank (.token lexeme ih)

/-- The names are `x` and those of functions. -/
theorem Laid.name_mem {text : List Char} {tokens : List FormulaToken} {ts : List Token}
    (laid : Laid text tokens ts) {name : List Char} (member : .name name ∈ ts) :
    name = ['x'] ∨ name ∈ formulaFunctions := by
  induction laid with
  | nil => exact absurd member List.not_mem_nil
  | @cons _ _ token _ t _ _ _ is _ _ _ ih =>
    rcases List.mem_cons.mp member with rfl | member
    · unfold FormulaToken.Kind.Is at is
      split at is
      case h_1 => exact nomatch is
      case h_2 =>
        obtain ⟨isInput, same⟩ := is
        exact .inl ((Token.name.inj same).trans isInput)
      case h_3 =>
        obtain ⟨isFunction, same⟩ := is
        exact .inr (Token.name.inj same ▸ isFunction)
      case h_4 => simp at is
      case h_5 => exact nomatch is
      case h_6 => exact nomatch is
      case h_7 => exact nomatch is
    · exact ih member

end RtCore.Logging
