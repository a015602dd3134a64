import Formula.Expression.Tree
import Formula.Source.Lexeme
import Formula.Value.Literal

/-! Reading expressions. The grammar, with the lowest precedence first, is

    sum     := product (('+' | '-') product)*
    product := atom (('*' | '/') atom)*
    atom    := number | name ['(' [sum (',' sum)*] ')'] | '-' atom | '(' sum ')'

A name before a parenthesis is always a call. Reading goes over the lexemes once, from left to
right. It keeps a stack of what is unfinished, the innermost first, and is always in one of two
states: either it needs an operand, or it has one and looks for what follows. -/
namespace Formula

/-- Something unfinished: a negation without its operand, a product or sum without its right side,
an open parenthesis, or a call without some of its arguments, of which those read are listed with
the last one first. -/
inductive Frame where
  | negation
  | product (left : Term) (op : BinaryOperator)
  | sum (left : Term) (op : BinaryOperator)
  | group
  | call (name : String) (arguments : List Term)

inductive Malformation where
  | endOfInput
  | valueExpected
  | closingParenthesisExpected
  | commaExpected
  | notAnExpression
  | invalidNumber (text : String)
  deriving DecidableEq

structure Refusal where
  cause : Malformation
  position : Nat
  deriving DecidableEq

def Malformation.message : Malformation → String
  | endOfInput => "unexpected end of expression"
  | valueExpected => "value expected"
  | closingParenthesisExpected => "closing parenthesis expected"
  | commaExpected => "comma expected"
  | notAnExpression => "syntax error"
  | invalidNumber text => "invalid number literal '" ++ text ++ "'"

/-- The error that a refused source of the given name is reported with. -/
def Refusal.toError (refusal : Refusal) (source : String) : ExpressionError :=
  let location : SourceLocation := ⟨refusal.position, source⟩
  match refusal.cause with
  | .endOfInput => .endOfInput location
  | cause => .malformed cause.message location []

namespace Term

def additive? : Char → Option BinaryOperator
  | '+' => some .add
  | '-' => some .sub
  | _ => none

/-- The multiplicative operator of a character. -/
def multiplicative? : Char → Option BinaryOperator
  | '*' => some .mul
  | '/' => some .div
  | _ => none

/-- An atom finishes the negations around it, and then the product that waits for it. -/
def finishAtom : Term → List Frame → Term × List Frame
  | atom, .negation :: stack => finishAtom (.negation atom) stack
  | atom, .product left op :: stack => (.binary op left atom, stack)
  | atom, stack => (atom, stack)

/-- A product finishes the sum that waits for it. -/
def finishProduct : Term → List Frame → Term × List Frame
  | product, .sum left op :: stack => (.binary op left product, stack)
  | product, stack => (product, stack)

/-- Why nothing that is neither an operator nor a closing parenthesis may follow a sum inside the
given stack. -/
def refuseAfterSum : List Frame → Malformation
  | .group :: _ => .closingParenthesisExpected
  | .call .. :: _ => .commaExpected
  | _ => .notAnExpression

/-- What reading has at the end of the lexemes after a product: the whole expression, or an
unfinished parenthesis or call. -/
def finish (product : Term) (stack : List Frame) : Except Malformation Term :=
  match finishProduct product stack with
  | (sum, []) => .ok sum
  | (_, .call .. :: _) => .error .endOfInput
  | (_, stack) => .error (refuseAfterSum stack)

mutual

/-- Reads lexemes where an operand is needed. Numbers are converted by `number?`, and `final` is
the position after the source. -/
def readOperand (number? : String → Option Value) (final : Nat) :
    List LocatedLexeme → List Frame → Except Refusal Term
  | [], _ => .error ⟨.endOfInput, final⟩
  | ⟨.number text, position⟩ :: rest, stack =>
    match number? (String.ofList text) with
    | some value =>
      let (product, stack) := finishAtom (.literal value) stack
      readFollowing number? final rest product stack
    | none => .error ⟨.invalidNumber (String.ofList text), position⟩
  | ⟨.name name, _⟩ :: ⟨.mark '(', _⟩ :: ⟨.mark ')', _⟩ :: rest, stack =>
    let (product, stack) := finishAtom (.call (String.ofList name) []) stack
    readFollowing number? final rest product stack
  | ⟨.name name, _⟩ :: ⟨.mark '(', _⟩ :: rest, stack =>
    readOperand number? final rest (.call (String.ofList name) [] :: stack)
  | ⟨.name name, _⟩ :: rest, stack =>
    let (product, stack) := finishAtom (.var (String.ofList name)) stack
    readFollowing number? final rest product stack
  | ⟨.mark c, position⟩ :: rest, stack =>
    if c = '-' then readOperand number? final rest (.negation :: stack)
    else if c = '(' then readOperand number? final rest (.group :: stack)
    else .error ⟨.valueExpected, position⟩

/-- Reads lexemes after a product, inside the given stack. -/
def readFollowing (number? : String → Option Value) (final : Nat) :
    List LocatedLexeme → Term → List Frame → Except Refusal Term
  | [], product, stack =>
    match finish product stack with
    | .ok expression => .ok expression
    | .error cause => .error ⟨cause, final⟩
  | ⟨.mark c, position⟩ :: rest, product, stack =>
    match multiplicative? c, additive? c with
    | some op, _ => readOperand number? final rest (.product product op :: stack)
    | none, some op =>
      let (sum, stack) := finishProduct product stack
      readOperand number? final rest (.sum sum op :: stack)
    | none, none =>
      match c, finishProduct product stack with
      | ')', (sum, .group :: stack) =>
        let (product, stack) := finishAtom sum stack
        readFollowing number? final rest product stack
      | ')', (sum, .call name arguments :: stack) =>
        let (product, stack) := finishAtom (.call name (sum :: arguments).reverse) stack
        readFollowing number? final rest product stack
      | ',', (sum, .call name arguments :: stack) =>
        readOperand number? final rest (.call name (sum :: arguments) :: stack)
      | _, (_, stack) => .error ⟨refuseAfterSum stack, position⟩
  | ⟨_, position⟩ :: _, product, stack =>
    .error ⟨refuseAfterSum (finishProduct product stack).2, position⟩

end

/-- Reads a source that is one expression with white space around its lexemes. -/
def read (number? : String → Option Value) (source : String) : Except Refusal Term :=
  let text := source.toList
  readOperand number? (text.length + 1) (Lexeme.scan 1 text) []

end Term

end Formula
