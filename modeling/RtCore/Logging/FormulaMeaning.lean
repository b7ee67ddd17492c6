import Mathlib.Algebra.Ring.Int.Defs
import RtCore.Logging.MdfFormula

/-!
# A converted formula means the same

The conversion of an expression is a rewriting of its tokens: `x` becomes `X`, and a number or `x`
to a small power becomes a product in parentheses. Nothing of the grammar is looked at, but wherever
the expression has a reading, the rewritten tokens have one of the same shape: what stands before a
caret is an operand there, and a product in parentheses is one, too.

## Main definitions

* `Converts` — the rewriting of tokens
* `Means` — a formula without powers that has the value of an expression

## Main results

* `converts_convertTokens` — the converted text has the rewritten tokens
* `Converts.reads` — rewritten tokens are read like the original ones
* `formula_conversion_preserves_meaning` — a formula means what the expression does
-/

namespace RtCore.Logging

open RtCore.Foundation

/-! ### The rewriting of tokens -/

/-- `x` is `X` in a formula. -/
def renameInput : Token → Token
  | .name name => .name (if name = ['x'] then ['X'] else name)
  | token => token

/-- Tokens that stand for a value: a number and the input. -/
def IsOperand (token : Token) : Prop := (∃ text, token = .number text) ∨ token = .name ['x']

/-- So many times an operator and the factor. -/
def factorsBefore (factor : Token) (rest : List Token) : ℕ → List Token
  | 0 => rest
  | n + 1 => .star :: factor :: factorsBefore factor rest n

/-- Tokens of an expression and of its formula. A name is the input unless a parenthesis follows. -/
inductive Converts : List Token → List Token → Prop
  | nil : Converts [] []
  | keep {token : Token} {tokens converted : List Token} (notPower : token ≠ .caret)
      (notBase : tokens.head? ≠ some .caret)
      (call : ∀ name, token = .name name → (name = ['x'] ↔ tokens.head? ≠ some .leftParen))
      (later : Converts tokens converted) :
      Converts (token :: tokens) (renameInput token :: converted)
  | power {base : Token} {digits : List Char} {tokens converted : List Token} {n : ℕ}
      (operand : IsOperand base) (exponent : (Formula.number digits).exponent? = some (n + 1))
      (unchained : tokens.head? ≠ some .caret) (later : Converts tokens converted) :
      Converts (base :: .caret :: .number digits :: tokens)
        (.leftParen :: renameInput base :: factorsBefore (renameInput base)
          (.rightParen :: converted) n)

/-- A symbol that is no caret is kept. -/
theorem Converts.of_symbol {token : Token} {tokens converted : List Token}
    (converts : Converts (token :: tokens) converted) (symbol : renameInput token = token)
    (noOperand : ¬IsOperand token) :
    ∃ later, converted = token :: later ∧ Converts tokens later := by
  cases converts with
  | keep _ _ _ later => exact ⟨_, by rw [symbol], later⟩
  | power operand => exact absurd operand noOperand

theorem Converts.head_ne {tokens converted : List Token} (converts : Converts tokens converted)
    {token : Token} (kept : ∀ other, renameInput other = token → other = token)
    (notParen : token ≠ .leftParen) (absent : tokens.head? ≠ some token) :
    converted.head? ≠ some token := by
  intro there
  cases converts with
  | nil => exact nomatch there
  | keep => exact absent (congrArg some (kept _ (Option.some.inj there)))
  | power => exact notParen (Option.some.inj there).symm

theorem eq_of_renameInput {token other : Token} (same : renameInput other = token)
    (noName : ∀ name, token ≠ .name name) : other = token := by
  cases other with
  | name name => exact absurd same.symm (noName _)
  | _ => exact same

theorem not_isOperand_of_stops {token : Token} (stops : token.startsOperand = false) :
    ¬IsOperand token := by
  rintro (⟨text, rfl⟩ | rfl)
  · exact nomatch stops
  · exact nomatch stops

theorem Converts.not_leftParen {tokens converted : List Token}
    (converts : Converts tokens converted) (stops : Stops tokens) :
    converted.head? ≠ some .leftParen := by
  intro there
  cases converts with
  | nil => exact nomatch there
  | keep =>
    cases eq_of_renameInput (Option.some.inj there) nofun
    exact nomatch stops _ rfl
  | power operand => exact absurd operand (not_isOperand_of_stops (stops _ rfl))

/-- A group is not the base of a power. -/
theorem Converts.not_group_power {tokens converted rest : List Token}
    (converts : Converts tokens converted) : ¬Token.rightParen :: .caret :: rest <:+ tokens := by
  induction converts with
  | nil => exact fun isSuffix => nomatch List.suffix_nil.mp isSuffix
  | keep _ notBase _ _ ih =>
    intro isSuffix
    rcases List.suffix_cons_iff.mp isSuffix with same | isSuffix
    · cases same
      exact notBase rfl
    · exact ih isSuffix
  | power operand _ _ _ ih =>
    intro isSuffix
    rcases List.suffix_cons_iff.mp isSuffix with same | isSuffix
    · cases same
      exact not_isOperand_of_stops rfl operand
    rcases List.suffix_cons_iff.mp isSuffix with same | isSuffix
    · exact nomatch same
    rcases List.suffix_cons_iff.mp isSuffix with same | isSuffix
    · exact nomatch same
    exact ih isSuffix

/-! ### Meaning -/

universe u

/-- A formula without powers has the value of an expression, with `X` for `x`. -/
structure Means (expression formula : Formula) : Prop where
  powerFree : formula.PowerFree
  value : ∀ {R : Type u} [CommRing R] (I : Interpretation R) {ρ ρ' : List Char → R},
    ρ' ['X'] = ρ ['x'] → formula.value I ρ' = expression.value I ρ

namespace Means

theorem number (text : List Char) : Means.{u} (.number text) (.number text) :=
  ⟨trivial, fun _ _ _ _ => rfl⟩

theorem input : Means.{u} (.named ['x']) (.named ['X']) := ⟨trivial, fun _ _ _ same => same⟩

variable {a a' b b' : Formula}

theorem call (function : List Char) (means : Means.{u} a a') :
    Means.{u} (.call function a) (.call function a') :=
  ⟨means.powerFree, fun I _ _ same => congrArg (I.function function) (means.value I same)⟩

theorem neg (means : Means.{u} a a') : Means.{u} (.neg a) (.neg a') :=
  ⟨means.powerFree, fun I _ _ same => congrArg (-·) (means.value I same)⟩

theorem add (first : Means.{u} a a') (second : Means.{u} b b') :
    Means.{u} (.add a b) (.add a' b') :=
  ⟨⟨first.powerFree, second.powerFree⟩,
    fun I _ _ same => congrArg₂ (· + ·) (first.value I same) (second.value I same)⟩

theorem sub (first : Means.{u} a a') (second : Means.{u} b b') :
    Means.{u} (.sub a b) (.sub a' b') :=
  ⟨⟨first.powerFree, second.powerFree⟩,
    fun I _ _ same => congrArg₂ (· - ·) (first.value I same) (second.value I same)⟩

theorem mul (first : Means.{u} a a') (second : Means.{u} b b') :
    Means.{u} (.mul a b) (.mul a' b') :=
  ⟨⟨first.powerFree, second.powerFree⟩,
    fun I _ _ same => congrArg₂ (· * ·) (first.value I same) (second.value I same)⟩

theorem div (first : Means.{u} a a') (second : Means.{u} b b') :
    Means.{u} (.div a b) (.div a' b') :=
  ⟨⟨first.powerFree, second.powerFree⟩,
    fun I _ _ same => congrArg₂ I.divide (first.value I same) (second.value I same)⟩

end Means

/-- What has been read of an expression and of its formula. -/
inductive PartMeans : Part → Part → Prop
  | sum : PartMeans .sum .sum
  | sumTail {a a' : Formula} (means : Means.{u} a a') : PartMeans (.sumTail a) (.sumTail a')
  | product : PartMeans .product .product
  | productTail {a a' : Formula} (means : Means.{u} a a') :
      PartMeans (.productTail a) (.productTail a')
  | unary : PartMeans .unary .unary
  | power : PartMeans .power .power
  | atom : PartMeans .atom .atom

/-! ### Products -/

/-- A formula times another, so many times. -/
def timesPower (factor : Formula) (product : Formula) : ℕ → Formula
  | 0 => product
  | n + 1 => timesPower factor (.mul product factor) n

theorem powerFree_timesPower {factor product : Formula} (free : factor.PowerFree)
    (free' : product.PowerFree) (n : ℕ) : (timesPower factor product n).PowerFree := by
  induction n generalizing product with
  | zero => exact free'
  | succ n ih => exact ih ⟨free', free⟩

theorem value_timesPower {R : Type*} [CommRing R] (I : Interpretation R) (ρ : List Char → R)
    (factor product : Formula) (n : ℕ) :
    (timesPower factor product n).value I ρ = product.value I ρ * factor.value I ρ ^ n := by
  induction n generalizing product with
  | zero => rw [timesPower, pow_zero, mul_one]
  | succ n ih => rw [timesPower, ih, Formula.value, pow_succ', mul_assoc]

/-- The product of a base with itself means its power. -/
theorem Means.power {a a' : Formula} (means : Means.{u} a a') {digits : List Char} {n : ℕ}
    (exponent : (Formula.number digits).exponent? = some (n + 1)) :
    Means.{u} (.pow a (.number digits)) (timesPower a' a' n) := by
  refine ⟨powerFree_timesPower means.powerFree means.powerFree n, ?_⟩
  intro R _ I ρ ρ' same
  rw [value_timesPower, means.value I same, Formula.value, exponent]
  exact (pow_succ' _ n).symm

/-- A token is read as an operand, whatever follows it but a parenthesis. -/
def ReadsAs (token : Token) (a : Formula) : Prop :=
  ∀ rest : List Token, rest.head? ≠ some .leftParen → Reads .atom (token :: rest) a rest

theorem head_factorsBefore {factor : Token} {rest : List Token} {n : ℕ} {token : Token}
    (noStar : token ≠ .star) (noParen : token ≠ .rightParen) :
    (factorsBefore factor (.rightParen :: rest) n).head? ≠ some token := by
  cases n with
  | zero => exact fun same => noParen (Option.some.inj same).symm
  | succ n => exact fun same => noStar (Option.some.inj same).symm

theorem ReadsAs.unary {token : Token} {a : Formula} (readsAs : ReadsAs token a) (rest : List Token)
    (n : ℕ) :
    Reads .unary (token :: factorsBefore token (.rightParen :: rest) n) a
      (factorsBefore token (.rightParen :: rest) n) :=
  .positive (.power (readsAs _ (head_factorsBefore nofun nofun))
    (.powerEnd (head_factorsBefore nofun nofun)))

theorem reads_factorsBefore {token : Token} {a : Formula} (readsAs : ReadsAs token a)
    (product : Formula) (rest : List Token) (n : ℕ) :
    Reads (.productTail product) (factorsBefore token (.rightParen :: rest) n)
      (timesPower a product n) (.rightParen :: rest) := by
  induction n generalizing product with
  | zero => exact .productEnd ⟨by simp [factorsBefore], by simp [factorsBefore]⟩
  | succ n ih => exact .times (readsAs.unary rest n) (ih _)

/-- A product in parentheses is read as an operand. -/
theorem reads_product {token : Token} {a : Formula} (readsAs : ReadsAs token a) (rest : List Token)
    (n : ℕ) :
    Reads .atom (.leftParen :: token :: factorsBefore token (.rightParen :: rest) n)
      (timesPower a a n) rest :=
  .group (.sum (.product (readsAs.unary rest n) (reads_factorsBefore readsAs a rest n))
    (.sumEnd ⟨nofun, nofun⟩))

/-! ### Reading the rewritten tokens -/

/-- Where a part may end: an operand is not the base of a power. -/
def EndsBefore (part : Part) (left : List Token) : Prop :=
  Stops left ∧ (part = .atom → left.head? ≠ some .caret)

/-- An exponent that is a number is read alone. -/
theorem eq_of_reads_number {digits : List Char} {tokens left : List Token} {b : Formula}
    (reads : Reads .unary (.number digits :: tokens) b left)
    (unchained : tokens.head? ≠ some .caret) : b = .number digits ∧ left = tokens :=
  reads.unique (.positive (.power .number (.powerEnd unchained)))

theorem EndsBefore.of_stops {part : Part} {left : List Token} (stops : Stops left)
    (noAtom : part ≠ .atom) : EndsBefore part left :=
  ⟨stops, fun same => absurd same noAtom⟩

/-- A symbol that is kept, and what stands behind it. -/
theorem Converts.tail {token : Token} {tokens converted : List Token}
    (converts : Converts (token :: tokens) converted) (symbol : token.isSymbol = true) :
    ∃ later, converted = token :: later ∧ Converts tokens later := by
  have noOperand : ¬IsOperand token := by
    rintro (⟨text, rfl⟩ | rfl)
    · exact nomatch symbol
    · exact nomatch symbol
  refine converts.of_symbol ?_ noOperand
  cases token with
  | name name => exact nomatch symbol
  | _ => rfl

theorem Converts.head_ne_symbol {tokens converted : List Token}
    (converts : Converts tokens converted) {token : Token} (symbol : token.isSymbol = true)
    (notParen : token ≠ .leftParen) (absent : tokens.head? ≠ some token) :
    converted.head? ≠ some token := by
  have noName : ∀ name, token ≠ .name name := by
    rintro name rfl
    exact nomatch symbol
  exact converts.head_ne (fun other same => eq_of_renameInput same noName) notParen absent

/-- The base of a power is an operand, which the product of its factors means. -/
theorem Converts.reads_power {tokens converted left rest : List Token} {a b : Formula}
    (converts : Converts tokens converted) (base : Reads .atom tokens a (.caret :: rest))
    (exponent : Reads .unary rest b left) :
    ∃ formula left', Converts left left' ∧ Reads .power converted formula left' ∧
      Means.{u} (.pow a b) formula := by
  have noGroup : ¬.rightParen :: .caret :: rest <:+ tokens := converts.not_group_power
  cases base with
  | @number text =>
    cases converts with
    | keep _ notBase => exact absurd rfl notBase
    | @power _ digits _ later n _ exponent' unchained laterConverts =>
      obtain ⟨rfl, rfl⟩ := eq_of_reads_number exponent unchained
      have readsAs : ReadsAs (.number text) (.number text) := fun _ _ => Reads.number
      refine ⟨_, later, laterConverts, .power (reads_product readsAs later n) (.powerEnd ?_),
        (Means.number text).power exponent'⟩
      exact laterConverts.head_ne_symbol rfl nofun unchained
  | named =>
    cases converts with
    | keep _ notBase => exact absurd rfl notBase
    | @power _ digits _ later n operand exponent' unchained laterConverts =>
      obtain ⟨rfl, rfl⟩ := eq_of_reads_number exponent unchained
      rcases operand with ⟨text, same⟩ | same
      · exact nomatch same
      cases same
      have readsAs : ReadsAs (.name ['X']) (.named ['X']) := fun rest stops => .named stops
      refine ⟨_, later, laterConverts, .power (reads_product readsAs later n) (.powerEnd ?_),
        Means.input.power exponent'⟩
      exact laterConverts.head_ne_symbol rfl nofun unchained
  | call argument =>
    exact absurd (argument.suffix.trans ((List.suffix_cons _ _).trans (List.suffix_cons _ _)))
      noGroup
  | group inner => exact absurd (inner.suffix.trans (List.suffix_cons _ _)) noGroup

/-- Rewritten tokens are read like the original ones, and mean the same. -/
theorem Converts.reads {part part' : Part} {tokens left converted : List Token} {a : Formula}
    (reads : Reads part tokens a left) (ends : EndsBefore part left)
    (converts : Converts tokens converted) (means : PartMeans.{u} part part') :
    ∃ formula left', Converts left left' ∧ Reads part' converted formula left' ∧
      Means.{u} a formula := by
  -- On the reading of the original. The parts before the last end in front of an operator or a
  -- bracket, so no power is cut in two; a power with a written-out exponent is the one case where
  -- the tokens differ.
  induction reads generalizing converted part' with
  | sum first later first_ih later_ih =>
    cases means
    have stops := later.stops ends.1 ⟨_, .inl rfl⟩
    obtain ⟨_, rest', converts, first', means⟩ :=
      first_ih (.of_stops stops nofun) converts .product
    obtain ⟨formula, left', converts, later', means⟩ :=
      later_ih (.of_stops ends.1 nofun) converts (.sumTail means)
    exact ⟨formula, left', converts, .sum first' later', means⟩
  | plus next later next_ih later_ih =>
    cases means with
    | sumTail means =>
      obtain ⟨_, rfl, behind⟩ := converts.tail rfl
      have stops := later.stops ends.1 ⟨_, .inl rfl⟩
      obtain ⟨_, rest', converts, next', means'⟩ :=
        next_ih (.of_stops stops nofun) behind .product
      obtain ⟨formula, left', converts, later', means⟩ :=
        later_ih (.of_stops ends.1 nofun) converts (.sumTail (means.add means'))
      exact ⟨formula, left', converts, .plus next' later', means⟩
  | minus next later next_ih later_ih =>
    cases means with
    | sumTail means =>
      obtain ⟨_, rfl, behind⟩ := converts.tail rfl
      have stops := later.stops ends.1 ⟨_, .inl rfl⟩
      obtain ⟨_, rest', converts, next', means'⟩ :=
        next_ih (.of_stops stops nofun) behind .product
      obtain ⟨formula, left', converts, later', means⟩ :=
        later_ih (.of_stops ends.1 nofun) converts (.sumTail (means.sub means'))
      exact ⟨formula, left', converts, .minus next' later', means⟩
  | sumEnd absent =>
    cases means with
    | sumTail means =>
      exact ⟨_, _, converts, .sumEnd ⟨converts.head_ne_symbol rfl nofun absent.1,
        converts.head_ne_symbol rfl nofun absent.2⟩, means⟩
  | product first later first_ih later_ih =>
    cases means
    have stops := later.stops ends.1 ⟨_, .inr (.inl rfl)⟩
    obtain ⟨_, rest', converts, first', means⟩ :=
      first_ih (.of_stops stops nofun) converts .unary
    obtain ⟨formula, left', converts, later', means⟩ :=
      later_ih (.of_stops ends.1 nofun) converts (.productTail means)
    exact ⟨formula, left', converts, .product first' later', means⟩
  | times next later next_ih later_ih =>
    cases means with
    | productTail means =>
      obtain ⟨_, rfl, behind⟩ := converts.tail rfl
      have stops := later.stops ends.1 ⟨_, .inr (.inl rfl)⟩
      obtain ⟨_, rest', converts, next', means'⟩ :=
        next_ih (.of_stops stops nofun) behind .unary
      obtain ⟨formula, left', converts, later', means⟩ :=
        later_ih (.of_stops ends.1 nofun) converts (.productTail (means.mul means'))
      exact ⟨formula, left', converts, .times next' later', means⟩
  | divide next later next_ih later_ih =>
    cases means with
    | productTail means =>
      obtain ⟨_, rfl, behind⟩ := converts.tail rfl
      have stops := later.stops ends.1 ⟨_, .inr (.inl rfl)⟩
      obtain ⟨_, rest', converts, next', means'⟩ :=
        next_ih (.of_stops stops nofun) behind .unary
      obtain ⟨formula, left', converts, later', means⟩ :=
        later_ih (.of_stops ends.1 nofun) converts (.productTail (means.div means'))
      exact ⟨formula, left', converts, .divide next' later', means⟩
  | productEnd absent =>
    cases means with
    | productTail means =>
      exact ⟨_, _, converts, .productEnd ⟨converts.head_ne_symbol rfl nofun absent.1,
        converts.head_ne_symbol rfl nofun absent.2⟩, means⟩
  | negative _ ih =>
    cases means
    obtain ⟨_, rfl, behind⟩ := converts.tail rfl
    obtain ⟨formula, left', converts, later', means⟩ :=
      ih (.of_stops ends.1 nofun) behind .unary
    exact ⟨_, left', converts, .negative later', means.neg⟩
  | positive _ ih =>
    cases means
    obtain ⟨formula, left', converts, power, means⟩ := ih (.of_stops ends.1 nofun) converts .power
    exact ⟨formula, left', converts, .positive power, means⟩
  | power base later base_ih _ =>
    cases means
    cases later with
    | caret exponent => exact converts.reads_power base exponent
    | powerEnd absent =>
      obtain ⟨formula, left', converts, base', means⟩ :=
        base_ih ⟨ends.1, fun _ => absent⟩ converts .atom
      exact ⟨formula, left', converts,
        .power base' (.powerEnd (converts.head_ne_symbol rfl nofun absent)), means⟩
  | caret | powerEnd => exact nomatch means
  | number =>
    cases means
    cases converts with
    | keep _ _ _ later => exact ⟨_, _, later, .number, .number _⟩
    | power => exact absurd rfl (ends.2 rfl)
  | named noParen =>
    cases means
    cases converts with
    | keep _ _ call later =>
      cases (call _ rfl).mpr noParen
      exact ⟨_, _, later, .named (later.not_leftParen ends.1), .input⟩
    | power => exact absurd rfl (ends.2 rfl)
  | call argument ih =>
    cases means
    cases converts with
    | keep _ _ call later =>
      obtain ⟨_, rfl, inside⟩ := later.tail rfl
      obtain ⟨formula, left', converts, argument', means⟩ :=
        ih (.of_stops (stops_cons rfl _) nofun) inside .sum
      obtain ⟨_, rfl, behind⟩ := converts.tail rfl
      have noInput := mt (call _ rfl).mp (not_not.mpr rfl)
      rw [renameInput, if_neg noInput]
      exact ⟨_, _, behind, .call argument', means.call _⟩
  | group inner ih =>
    cases means
    obtain ⟨_, rfl, inside⟩ := converts.tail rfl
    obtain ⟨formula, left', converts, inner', means⟩ :=
      ih (.of_stops (stops_cons rfl _) nofun) inside .sum
    obtain ⟨_, rfl, behind⟩ := converts.tail rfl
    exact ⟨_, _, behind, .group inner', means⟩

/-! ### The text of a formula -/

namespace FormulaToken

variable {token : FormulaToken} {t : Token}

theorem Kind.Is.caret_iff {kind : Kind} {text : List Char} (is : kind.Is text t) :
    kind = .power ↔ t = .caret := by
  cases kind with
  | number => exact iff_of_false (by rintro ⟨⟩) (by rintro rfl; cases is)
  | input | function => exact iff_of_false (by rintro ⟨⟩) (by rintro rfl; cases is.2)
  | operator => exact iff_of_false (by rintro ⟨⟩) (by rintro rfl; simp [Kind.Is] at is)
  | power => exact iff_of_true rfl is
  | opening | closing => exact iff_of_false (by rintro ⟨⟩) (by rintro rfl; cases is)

/-- What is written for a token is the renamed one. -/
theorem isLexeme_mdfText {rest rest' : List Char} (lexeme : IsLexeme t token.text rest)
    (is : token.kind.Is token.text t) (keeps : KeepsEnds rest rest') :
    IsLexeme (renameInput t) token.mdfText rest' := by
  by_cases isInput : token.kind = .input
  · rw [isInput] at is
    obtain ⟨text, rfl⟩ := is
    rw [text] at lexeme ⊢
    rw [mdfText, if_pos isInput]
    cases lexeme with
    | name _ _ ends => exact .name rfl (by rintro _ ⟨⟩) (keeps.name ends)
    | symbol isSymbol => exact absurd isSymbol (ofChar?_ne_name _ _)
  · have kept : renameInput t = t := by
      cases t with
      | name name =>
        have noInput : name ≠ ['x'] := by
          rintro rfl
          cases kind : token.kind with
          | input => exact isInput kind
          | function =>
            rw [kind] at is
            obtain ⟨member, same⟩ := is
            rw [← Token.name.inj same] at member
            exact absurd member (by decide)
          | operator =>
            rw [kind] at is
            simp [Kind.Is] at is
          | number | power | opening | closing =>
            rw [kind] at is
            cases is
        rw [renameInput, if_neg noInput]
      | _ => rfl
    rw [kept, mdfText, if_neg isInput]
    exact lexeme.follow keeps

theorem keepsEnds_mdfText {rest rest' rest'' : List Char} (lexeme : IsLexeme t token.text rest)
    (is : token.kind.Is token.text t) :
    KeepsEnds (token.text ++ rest') (token.mdfText ++ rest'') := by
  by_cases isInput : token.kind = .input
  · rw [isInput] at is
    have isName : ∀ {P : Prop}, isIdentifierChar 'x' = false → P := nofun
    rw [is.1]
    exact ⟨fun ends => isName (ends 'x' rfl), fun ends => isName (ends 'x' rfl).1⟩
  · rw [mdfText, if_neg isInput]
    obtain ⟨c, later, same, -⟩ := lexeme.start
    rw [same]
    exact .of_head rfl

end FormulaToken

/-! #### Products -/

theorem flatMap_range (text : List Char) (n : ℕ) :
    ((List.range n).flatMap fun _ => text) = (List.replicate n text).flatten := by
  rw [List.flatMap_def, List.map_const', List.length_range]

theorem expandPower_succ (factor : List Char) (n : ℕ) :
    expandPower factor (n + 1) =
      '(' :: (factor ++ (List.replicate n ([' ', '*', ' '] ++ factor)).flatten) ++ [')'] := by
  rw [expandPower, List.range_succ_eq_map, List.flatMap_cons, List.flatMap_map, ← flatMap_range]
  rfl

theorem lexes_factors {token : Token} {factor formula : List Char} {converted : List Token}
    (lexeme : ∀ rest, EndsNumber rest → IsLexeme token factor rest)
    (later : Lexes formula converted) (n : ℕ) :
    Lexes ((List.replicate n ([' ', '*', ' '] ++ factor)).flatten ++ ')' :: formula)
        (factorsBefore token (.rightParen :: converted) n) ∧
      EndsNumber ((List.replicate n ([' ', '*', ' '] ++ factor)).flatten ++ ')' :: formula) := by
  induction n with
  | zero =>
    exact ⟨.symbol rfl later, endsNumber_cons rfl (by decide) _⟩
  | succ n ih =>
    obtain ⟨lexes, ends⟩ := ih
    rw [List.replicate_succ, List.flatten_cons, List.append_assoc, List.append_assoc]
    refine ⟨?_, endsNumber_cons rfl (by decide) _⟩
    have next := Lexes.token (lexeme _ ends) lexes
    exact .space rfl (.symbol rfl (.space rfl next))

theorem lexes_expandPower {token : Token} {factor formula : List Char} {converted : List Token}
    (lexeme : ∀ rest, EndsNumber rest → IsLexeme token factor rest)
    (later : Lexes formula converted) (n : ℕ) :
    Lexes (expandPower factor (n + 1) ++ formula)
      (.leftParen :: token :: factorsBefore token (.rightParen :: converted) n) := by
  obtain ⟨lexes, ends⟩ := lexes_factors lexeme later n
  rw [expandPower_succ, List.cons_append, List.cons_append, List.append_assoc, List.append_assoc,
    List.singleton_append]
  exact .symbol rfl (.token (lexeme _ ends) lexes)

/-! #### Tokens -/

theorem Laid.isPower_iff {text : List Char} {tokens : List FormulaToken} {ts : List Token}
    (laid : Laid text tokens ts) : isPower tokens = true ↔ ts.head? = some .caret := by
  cases laid with
  | nil => exact iff_of_false nofun nofun
  | cons _ _ is =>
    have same := is.caret_iff
    simpa [isPower] using same

theorem Laid.paren_iff {text : List Char} {tokens : List FormulaToken} {ts : List Token}
    (laid : Laid text tokens ts) :
    (skipSpaces text).head? = some '(' ↔ ts.head? = some .leftParen := by
  cases laid with
  | nil blank =>
    have none : skipSpaces text = [] := List.dropWhile_eq_nil_iff.mpr blank
    rw [none]
    exact iff_of_false nofun nofun
  | @cons gap rest token _ t _ blank lexeme =>
    obtain ⟨c, later, same, noBlank⟩ := lexeme.start
    have skips : skipSpaces (gap ++ (token.text ++ rest)) = c :: (later ++ rest) := by
      rw [skipSpaces, List.dropWhile_append_of_pos blank, same, List.cons_append,
        List.dropWhile_cons_of_neg (by rw [noBlank]; decide)]
    rw [skips, List.head?_cons, List.head?_cons, Option.some_inj, Option.some_inj]
    rw [same] at lexeme
    cases lexeme with
    | symbol isSymbol =>
      constructor
      · rintro rfl
        exact (Option.some.inj isSymbol).symm
      · rintro rfl
        unfold Token.ofChar? at isSymbol
        split at isSymbol <;> cases isSymbol
        rfl
    | name start =>
      refine iff_of_false ?_ nofun
      rintro rfl
      exact nomatch start
    | number decimal =>
      refine iff_of_false ?_ nofun
      rintro rfl
      exact @IsDecimal.ne_of_start '(' ('(' :: later) later [] decimal (.inl ⟨.leftParen, rfl⟩)
        (List.append_nil _).symm

theorem eq_of_between {c : Char} (digit : '1' ≤ c ∧ c ≤ maxExpandedExponent) :
    c = '1' ∨ c = '2' ∨ c = '3' ∨ c = '4' := by
  have lower : 49 ≤ c.toNat := digit.1
  have upper : c.toNat ≤ 52 := digit.2
  have values : c.toNat = 49 ∨ c.toNat = 50 ∨ c.toNat = 51 ∨ c.toNat = 52 := by omega
  rw [← Char.ofNat_toNat c]
  rcases values with same | same | same | same
  · exact .inl (congrArg Char.ofNat same)
  · exact .inr (.inl (congrArg Char.ofNat same))
  · exact .inr (.inr (.inl (congrArg Char.ofNat same)))
  · exact .inr (.inr (.inr (congrArg Char.ofNat same)))

/-- An exponent that is expanded is a digit that is not zero. -/
theorem exponent_of_isSmallExponent {exponent : FormulaToken} {later : List FormulaToken}
    {t : Token} (small : isSmallExponent exponent later = true)
    (is : exponent.kind.Is exponent.text t) :
    ∃ n, t = .number exponent.text ∧ isPower later = false ∧
      (Formula.number exponent.text).exponent? = some (n + 1) ∧
        exponent.text.headI.toNat - '0'.toNat = n + 1 := by
  simp only [isSmallExponent, Bool.and_eq_true, decide_eq_true_eq, Bool.not_eq_true'] at small
  obtain ⟨⟨kind, digit⟩, unchained⟩ := small
  rw [kind] at is
  split at digit
  next c text =>
    rw [text] at is ⊢
    obtain rfl | rfl | rfl | rfl := eq_of_between (of_decide_eq_true digit)
    · exact ⟨0, is, unchained, rfl, rfl⟩
    · exact ⟨1, is, unchained, rfl, rfl⟩
    · exact ⟨2, is, unchained, rfl, rfl⟩
    · exact ⟨3, is, unchained, rfl, rfl⟩
  next => exact nomatch digit

/-- The operand before a caret. -/
theorem isOperand_of_kind {token : FormulaToken} {t : Token} (is : token.kind.Is token.text t)
    (kind : token.kind = .input ∨ token.kind = .number) : IsOperand t := by
  rcases kind with kind | kind
  · rw [kind] at is
    obtain ⟨text, rfl⟩ := is
    exact .inr (congrArg Token.name text)
  · rw [kind] at is
    exact .inl ⟨_, is⟩

/-- The converted text has the rewritten tokens. -/
theorem converts_convertTokens {pos : List Char} {tokens : List FormulaToken} {ts : List Token}
    {formula : List Char} (laid : Laid pos tokens ts)
    (converts : convertTokens pos tokens = some formula) :
    ∃ converted, Lexes formula converted ∧ Converts ts converted ∧ KeepsEnds pos formula := by
  induction pos, tokens using convertTokens.induct generalizing ts formula with
  | case1 pos =>
    cases laid
    cases converts
    exact ⟨[], .nil, .nil, fun _ => nofun, fun _ => nofun⟩
  | case2 pos token later power =>
    rw [convertTokens.eq_def] at converts
    dsimp only at converts
    rw [if_pos power] at converts
    exact nomatch converts
  | case3 pos token notPower caret exponent after expands base ih =>
    rw [convertTokens.eq_def] at converts
    dsimp only at converts
    rw [if_neg notPower, if_pos base, if_pos expands] at converts
    obtain ⟨formula', convertsLater, rfl⟩ := Option.map_eq_some_iff.mp converts
    cases laid with
    | @cons gap rest _ _ t _ blank lexeme is begin _ laid =>
      have isCaret := (laid.isPower_iff).mp base
      -- The base, the caret and the exponent: three tokens become a product.
      cases laid with
      | cons _ _ _ _ _ laid =>
        cases isCaret
        cases laid with
        | cons _ _ isExponent beginExponent _ laid =>
          obtain ⟨n, rfl, unchained, isSmall, count⟩ :=
            exponent_of_isSmallExponent expands.2 isExponent
          rw [beginExponent, List.drop_left] at convertsLater ih
          obtain ⟨converted, lexes, converts, -⟩ := ih laid convertsLater
          have lexemes : ∀ rest', EndsNumber rest' → IsLexeme (renameInput t) token.mdfText rest' :=
            fun rest' ends => token.isLexeme_mdfText lexeme is
              ⟨fun _ c head => (ends c head).1, fun _ => ends⟩
          have noCaret := mt laid.isPower_iff.mpr (Bool.eq_false_iff.mp unchained)
          rw [begin, between_append, count]
          refine ⟨_, .blank blank (lexes_expandPower lexemes lexes n),
            .power (isOperand_of_kind is expands.1) isSmall noCaret converts, .gap ?_⟩
          exact ⟨fun _ => by rintro _ ⟨⟩; rfl, fun _ => endsNumber_cons rfl (by decide) _⟩
  | case4 pos token notPower caret exponent after expands base =>
    rw [convertTokens.eq_def] at converts
    dsimp only at converts
    rw [if_neg notPower, if_pos base, if_neg expands] at converts
    exact nomatch converts
  | case5 pos token later notPower base few =>
    rw [convertTokens.eq_def] at converts
    dsimp only at converts
    rw [if_neg notPower, if_pos base] at converts
    cases later with
    | nil => exact nomatch converts
    | cons caret later =>
      cases later with
      | nil => exact nomatch converts
      | cons exponent after => exact absurd rfl (few caret exponent after)
  | case6 pos token later notPower noBase ih =>
    rw [convertTokens.eq_def] at converts
    dsimp only at converts
    rw [if_neg notPower, if_neg noBase] at converts
    obtain ⟨formula', convertsLater, rfl⟩ := Option.map_eq_some_iff.mp converts
    cases laid with
    | cons blank lexeme is begin call laid =>
      rw [begin, List.drop_left] at convertsLater ih
      obtain ⟨converted, lexes, converts, keeps⟩ := ih laid convertsLater
      rw [begin, between_append]
      refine ⟨_, .blank blank (.token (token.isLexeme_mdfText lexeme is keeps) lexes),
        .keep (mt is.caret_iff.mpr notPower) (mt laid.isPower_iff.mpr noBase) ?_ converts,
        .gap (token.keepsEnds_mdfText lexeme is)⟩
      intro name same
      rw [call name same]
      exact not_congr laid.paren_iff

/-! ### The meaning of a formula -/

/-- A formula means what its expression does, in every commutative ring: it is read in one way, has
no power and, where `X` is `x`, the same value. The expression names nothing but `x` and functions
that have one argument. -/
theorem formula_conversion_preserves_meaning (expression formula : List Char)
    (converts : toMdfFormula expression = some formula) :
    (∀ tokens, Lexes expression tokens → ∀ name, .name name ∈ tokens →
      name = ['x'] ∨ name ∈ formulaFunctions) ∧
    ∀ e, Parses expression e → ∃ f, Parses formula f ∧ (∀ f', Parses formula f' → f' = f) ∧
      f.PowerFree ∧ ∀ {R : Type u} [CommRing R] (I : Interpretation R) (ρ ρ' : List Char → R),
        ρ' ['X'] = ρ ['x'] → f.value I ρ' = e.value I ρ := by
  unfold toMdfFormula at converts
  cases tokenizes : tokenizeFormula expression with
  | none =>
    rw [tokenizes] at converts
    exact nomatch converts
  | some tokens =>
    rw [tokenizes] at converts
    dsimp only at converts
    split_ifs at converts
    cases tokens with
    | nil => exact nomatch converts
    | cons front later =>
      obtain ⟨ts, laid⟩ := laid_tokenizeFormula tokenizes
      constructor
      · intro tokens lexes name member
        cases laid.lexes.unique lexes
        exact laid.name_mem member
      · rintro e ⟨tokens, lexes, reads⟩
        cases laid.lexes.unique lexes
        -- The blanks before the first token are left out.
        have first : Laid front.begin (front :: later) ts := by
          cases laid with
          | @cons gap rest _ _ _ _ blank lexeme is begin call laid =>
            rw [begin]
            exact @Laid.cons [] rest front later _ _ nofun lexeme is begin call laid
        obtain ⟨converted, lexes', converts, -⟩ := converts_convertTokens first converts
        obtain ⟨f, left, done, reads', means⟩ :=
          Converts.reads reads ⟨nofun, nofun⟩ converts .sum
        cases done
        have parses : Parses formula f := ⟨converted, lexes', reads'⟩
        exact ⟨f, parses, fun f' parses' => parses'.unique parses, means.powerFree,
          fun I _ _ same => means.value I same⟩

/-! #### A negated cube -/

/-- `1 - x ^ 3` -/
def negatedCube : List Char := ['1', ' ', '-', ' ', 'x', ' ', '^', ' ', '3']

/-- `1 - (X * X * X)` -/
def negatedCubeFormula : List Char :=
  ['1', ' ', '-', ' ', '(', 'X', ' ', '*', ' ', 'X', ' ', '*', ' ', 'X', ')']

theorem isDecimal_digit {c : Char} (digit : c.isDigit = true) : IsDecimal [c] := by
  refine ⟨[c], [], [], rfl, ?_, .inl rfl, .inl rfl, c, List.mem_cons_self, digit⟩
  intro other member
  rwa [List.mem_singleton.mp member]

theorem parses_negatedCube : Parses negatedCube
    (.sub (.number ['1']) (.pow (.named ['x']) (.number ['3']))) := by
  have number : ∀ {c : Char} {rest : List Char}, c.isDigit = true → EndsNumber rest →
      IsLexeme (.number [c]) [c] rest := fun digit ends => .number (isDecimal_digit digit) ends
  have blank : ∀ rest, EndsNumber (' ' :: rest) := endsNumber_cons rfl (by decide)
  have isInput : IsLexeme (.name ['x']) ['x'] [' ', '^', ' ', '3'] :=
    .name rfl nofun fun c head => (blank _ c head).1
  refine ⟨[.number ['1'], .minus, .name ['x'], .caret, .number ['3']], ?_, ?_⟩
  · have three : Lexes [' ', '3'] [.number ['3']] :=
      .space rfl (.token (number rfl endsNumber_nil) .nil)
    have cube : Lexes ('x' :: [' ', '^', ' ', '3']) [.name ['x'], .caret, .number ['3']] :=
      .token isInput (.space rfl (.symbol rfl three))
    exact .token (number rfl (blank _)) (.space rfl (.symbol rfl (.space rfl cube)))
  · have exponent : Reads .unary [.number ['3']] (.number ['3']) [] :=
      .positive (.power .number (.powerEnd nofun))
    have one : Reads .product [.number ['1'], .minus, .name ['x'], .caret, .number ['3']]
        (.number ['1']) [.minus, .name ['x'], .caret, .number ['3']] :=
      .product (.positive (.power .number (.powerEnd nofun))) (.productEnd ⟨nofun, nofun⟩)
    have cube : Reads .product [.name ['x'], .caret, .number ['3']]
        (.pow (.named ['x']) (.number ['3'])) [] :=
      .product (.positive (.power (.named nofun) (.caret exponent))) (.productEnd ⟨nofun, nofun⟩)
    exact .sum one (.minus cube (.sumEnd ⟨nofun, nofun⟩))

theorem formula_conversion_preserves_meaning_negatedCube :
    ∃ f, Parses negatedCubeFormula f ∧ f.PowerFree ∧ ∀ (I : Interpretation ℤ) (x : ℤ),
      f.value I (fun _ => x) = I.number ['1'] - x ^ 3 := by
  obtain ⟨f, parses, -, powerFree, value⟩ :=
    (formula_conversion_preserves_meaning negatedCube negatedCubeFormula (by decide +kernel)).2 _
      parses_negatedCube
  exact ⟨f, parses, powerFree, fun I x => value I (fun _ => x) (fun _ => x) rfl⟩

end RtCore.Logging
