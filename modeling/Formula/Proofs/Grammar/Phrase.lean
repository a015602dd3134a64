import Formula.Expression.Reading
import Mathlib.Data.List.Forall2

/-! Derivations of the expression grammar

    sum       := product addends
    addends   := [('+' | '-') product addends]
    product   := atom factors
    factors   := [('*' | '/') atom factors]
    atom      := number | name | name '(' arguments ')' | '-' atom | '(' sum ')'
    arguments := [sum further]
    further   := [',' sum further]

over characters, with white space before every token. A derivation is data: it keeps every
character of the text it derives, so that two derivations of one text can be compared. Nothing here
refers to how expressions are read. -/
namespace Formula.Grammar

/-- White space, which may be empty. -/
@[ext]
structure Blanks where
  text : List Char
  blank : ∀ c ∈ text, Text.isBlank c = true

theorem blank_of_mem_nil : ∀ c ∈ [], Text.isBlank c = true :=
  List.forall_mem_nil _

/-- No white space. -/
def Blanks.nothing : Blanks :=
  ⟨[], blank_of_mem_nil⟩

/-- At least one digit. -/
@[ext]
structure Digits where
  text : List Char
  nonempty : text ≠ []
  digit : ∀ c ∈ text, c.isDigit = true

/-- The exponent part of a number. -/
@[ext]
structure Exponent where
  letter : Char
  sign : Option Char
  digits : Digits
  letter_eq : letter = 'e' ∨ letter = 'E'
  sign_eq : ∀ c ∈ sign, c = '+' ∨ c = '-'

/-- A number: digits, perhaps a point with any digits after it, perhaps an exponent. -/
@[ext]
structure Number where
  whole : Digits
  fraction : Option (List Char)
  exponent : Option Exponent
  fraction_digit : ∀ places ∈ fraction, ∀ c ∈ places, c.isDigit = true

/-- A name: a letter followed by letters and digits. -/
@[ext]
structure Name where
  first : Char
  rest : List Char
  letter : first.isAlpha = true
  alphanumeric : ∀ c ∈ rest, c.isAlphanum = true

def Exponent.text (e : Exponent) : List Char :=
  e.letter :: (e.sign.toList ++ e.digits.text)

/-- A point with the digits after it, if there is one. -/
def pointText : Option (List Char) → List Char
  | none => []
  | some places => '.' :: places

/-- The text of an exponent part, if there is one. -/
def scaleText : Option Exponent → List Char
  | none => []
  | some e => e.text

def Number.text (n : Number) : List Char :=
  n.whole.text ++ (pointText n.fraction ++ scaleText n.exponent)

def Name.text (n : Name) : List Char :=
  n.first :: n.rest

inductive Category where
  | sum
  | addends
  | product
  | factors
  | atom
  | arguments
  | further

/-- The derivations of a category. -/
inductive Phrase : Category → Type where
  | sum (first : Phrase .product) (rest : Phrase .addends) : Phrase .sum
  | noAddend : Phrase .addends
  | addend (blanks : Blanks) (op : BinaryOperator) (additive : op = .add ∨ op = .sub)
      (right : Phrase .product) (rest : Phrase .addends) : Phrase .addends
  | product (first : Phrase .atom) (rest : Phrase .factors) : Phrase .product
  | noFactor : Phrase .factors
  | factor (blanks : Blanks) (op : BinaryOperator) (multiplicative : op = .mul ∨ op = .div)
      (right : Phrase .atom) (rest : Phrase .factors) : Phrase .factors
  | number (blanks : Blanks) (number : Number) : Phrase .atom
  | var (blanks : Blanks) (name : Name) : Phrase .atom
  | call (blanks : Blanks) (name : Name) (opening : Blanks) (arguments : Phrase .arguments)
      (closing : Blanks) : Phrase .atom
  | negation (blanks : Blanks) (operand : Phrase .atom) : Phrase .atom
  | group (blanks : Blanks) (inner : Phrase .sum) (closing : Blanks) : Phrase .atom
  | noArgument : Phrase .arguments
  | someArguments (first : Phrase .sum) (rest : Phrase .further) : Phrase .arguments
  | noFurther : Phrase .further
  | further (blanks : Blanks) (argument : Phrase .sum) (rest : Phrase .further) : Phrase .further

/-- A lexeme with the white space before it. -/
@[ext]
structure Spaced where
  blanks : Blanks
  lexeme : Lexeme

end Formula.Grammar

namespace Formula.Lexeme

def text : Lexeme → List Char
  | number text => text
  | name text => text
  | mark c => [c]

end Formula.Lexeme

namespace Formula.Grammar

def Spaced.text (s : Spaced) : List Char :=
  s.blanks.text ++ s.lexeme.text

/-- The lexemes of a phrase from left to right. -/
def Phrase.lexemes : Phrase c → List Spaced
  | .sum first rest => first.lexemes ++ rest.lexemes
  | .noAddend => []
  | .addend blanks op _ right rest =>
    ⟨blanks, .mark op.symbol⟩ :: (right.lexemes ++ rest.lexemes)
  | .product first rest => first.lexemes ++ rest.lexemes
  | .noFactor => []
  | .factor blanks op _ right rest =>
    ⟨blanks, .mark op.symbol⟩ :: (right.lexemes ++ rest.lexemes)
  | .number blanks n => [⟨blanks, .number n.text⟩]
  | .var blanks name => [⟨blanks, .name name.text⟩]
  | .call blanks name opening arguments closing =>
    ⟨blanks, .name name.text⟩ :: ⟨opening, .mark '('⟩ ::
      (arguments.lexemes ++ [⟨closing, .mark ')'⟩])
  | .negation blanks operand => ⟨blanks, .mark '-'⟩ :: operand.lexemes
  | .group blanks inner closing =>
    ⟨blanks, .mark '('⟩ :: (inner.lexemes ++ [⟨closing, .mark ')'⟩])
  | .noArgument => []
  | .someArguments first rest => first.lexemes ++ rest.lexemes
  | .noFurther => []
  | .further blanks argument rest => ⟨blanks, .mark ','⟩ :: (argument.lexemes ++ rest.lexemes)

/-- An expression: a sum with white space after it. -/
@[ext]
structure Derivation where
  sum : Phrase .sum
  trailing : Blanks

/-- The text that is derived. -/
def Derivation.text (d : Derivation) : List Char :=
  d.sum.lexemes.flatMap Spaced.text ++ d.trailing.text

/-! ### Meanings -/

/-- What the parts of expressions mean. -/
structure Algebra (α : Type) where
  number : Number → α
  var : Name → α
  negation : α → α
  binary : BinaryOperator → α → α → α
  call : Name → List α → α

/-- What phrases of a category mean: addends and factors extend what stands to the left of them. -/
abbrev Meaning (α : Type) : Category → Type
  | .sum | .product | .atom => α
  | .addends | .factors => α → α
  | .arguments | .further => List α

/-- The meaning of a phrase. Each operator applies to all that precedes it at its level. -/
def Phrase.fold (A : Algebra α) : Phrase c → Meaning α c
  | .sum first rest => rest.fold A (first.fold A)
  | .noAddend => id
  | .addend _ op _ right rest => fun left => rest.fold A (A.binary op left (right.fold A))
  | .product first rest => rest.fold A (first.fold A)
  | .noFactor => id
  | .factor _ op _ right rest => fun left => rest.fold A (A.binary op left (right.fold A))
  | .number _ n => A.number n
  | .var _ name => A.var name
  | .call _ name _ arguments _ => A.call name (arguments.fold A)
  | .negation _ operand => A.negation (operand.fold A)
  | .group _ inner _ => inner.fold (c := .sum) A
  | .noArgument => []
  | .someArguments first rest => first.fold A :: rest.fold A
  | .noFurther => []
  | .further _ argument rest => argument.fold A :: rest.fold A

/-- Meanings in two algebras are related if their values are, where addends and factors are if they
keep related what they extend. -/
def Related (R : α → β → Prop) : (c : Category) → Meaning α c → Meaning β c → Prop
  | .sum, a, b | .product, a, b | .atom, a, b => R a b
  | .addends, f, g | .factors, f, g => ∀ a b, R a b → R (f a) (g b)
  | .arguments, as, bs | .further, as, bs => List.Forall₂ R as bs

/-- The operations of two algebras keep a relation. -/
structure Algebra.Respects (A : Algebra α) (B : Algebra β) (R : α → β → Prop) : Prop where
  number (n : Number) : R (A.number n) (B.number n)
  var (name : Name) : R (A.var name) (B.var name)
  negation : R a b → R (A.negation a) (B.negation b)
  binary (op : BinaryOperator) : R a b → R a' b' → R (A.binary op a a') (B.binary op b b')
  call (name : Name) : List.Forall₂ R as bs → R (A.call name as) (B.call name bs)

/-- What all operations keep holds between the meanings of every phrase. -/
theorem Algebra.Respects.fold {A : Algebra α} {B : Algebra β} {R : α → β → Prop}
    (respects : A.Respects B R) (p : Phrase c) : Related R c (p.fold A) (p.fold B) := by
  induction p with
  | sum _ _ first rest | product _ _ first rest => exact rest _ _ first
  | noAddend | noFactor => exact fun _ _ related => related
  | addend _ op _ _ _ right rest | factor _ op _ _ _ right rest =>
    exact fun _ _ related => rest _ _ (respects.binary op related right)
  | number _ n => exact respects.number n
  | var _ name => exact respects.var name
  | call _ name _ _ _ arguments => exact respects.call name arguments
  | negation _ _ operand => exact respects.negation operand
  | group _ _ _ inner => exact inner
  | noArgument | noFurther => exact .nil
  | someArguments _ _ first rest => exact .cons first rest
  | further _ _ _ argument rest => exact .cons argument rest

/-- Terms, where `number?` converts numbers; without a conversion there is no term. -/
def terms (number? : String → Option Value) : Algebra (Option Term) where
  number n := (number? (String.ofList n.text)).map .literal
  var name := some (.var (String.ofList name.text))
  negation operand := operand.map .negation
  binary op left right := left.bind fun left => right.map (.binary op left)
  call name arguments := (arguments.mapM id).map (.call (String.ofList name.text))

/-- All numbers that occur. -/
def numerals : Algebra (List Number) where
  number n := [n]
  var _ := []
  negation operand := operand
  binary _ left right := left ++ right
  call _ arguments := arguments.flatten

namespace Derivation

/-- The term that a derivation denotes, if all its numbers can be converted. -/
def term? (number? : String → Option Value) (d : Derivation) : Option Term :=
  d.sum.fold (terms number?)

/-- The numbers of a derivation from left to right. -/
def numbers (d : Derivation) : List Number :=
  d.sum.fold numerals

end Derivation

end Formula.Grammar
