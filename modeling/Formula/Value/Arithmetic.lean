import Formula.Fault

/-! Arithmetic on values. Integers, binary64 numbers, decimals and fractions each have their own
arithmetic; an integer joins any of them, a fraction becomes a binary64 number beside one, and
decimals mix with integers alone. Texts and sequences can be joined and repeated. -/
namespace Formula

inductive BinaryOperator where
  | add
  | sub
  | mul
  | div
  deriving DecidableEq

def BinaryOperator.symbol : BinaryOperator → Char
  | add => '+'
  | sub => '-'
  | mul => '*'
  | div => '/'

namespace Value

def ofDecimal : Except Decimal.Condition Decimal → Except Fault Value
  | .ok d => .ok (decimal d)
  | .error condition => .error (.decimal condition)

/-- An integer as a binary64 number, if it is not too great. -/
def floatOfInt (n : Int) : Except Fault Binary64 :=
  let x := Binary64.ofInt n
  if x.isInfinite then .error (.overflow .integer) else .ok x

/-- The binary64 quotient of two integers, rounded once. -/
def quotientOfInts (n d : Int) : Except Fault Binary64 :=
  if d = 0 then .error (.zeroDivision .integer)
  else
    let x := Binary64.ofQuotient ((n < 0) != (d < 0)) n.natAbs d.natAbs
    if x.isInfinite then .error (.overflow .quotient) else .ok x

/-- A fraction as a binary64 number, if it is not too great. -/
def floatOfFraction (q : Rat) : Except Fault Binary64 :=
  quotientOfInts q.num q.den

/-- The operation on integers. A quotient is a binary64 number. -/
def intOperation (op : BinaryOperator) (a b : Int) : Except Fault Value :=
  match op with
  | .add => .ok (int (a + b))
  | .sub => .ok (int (a - b))
  | .mul => .ok (int (a * b))
  | .div => (quotientOfInts a b).map float

/-- The operation on binary64 numbers. A division by zero has no result. -/
def floatOperation (op : BinaryOperator) (a b : Binary64) : Except Fault Value :=
  match op with
  | .add => .ok (float (a.add b))
  | .sub => .ok (float (a.sub b))
  | .mul => .ok (float (a.mul b))
  | .div => if b.isZero then .error (.zeroDivision .float) else .ok (float (a.div b))

def decimalOperation (op : BinaryOperator) (a b : Decimal) : Except Fault Value :=
  match op with
  | .add => ofDecimal (a.add b)
  | .sub => ofDecimal (a.sub b)
  | .mul => ofDecimal (a.mul b)
  | .div => ofDecimal (a.div b)

def fractionOperation (op : BinaryOperator) (a b : Rat) : Except Fault Value :=
  match op with
  | .add => .ok (fraction (a + b))
  | .sub => .ok (fraction (a - b))
  | .mul => .ok (fraction (a * b))
  | .div =>
    if b.num = 0 then .error (.zeroDivision (.fraction a.num.sign)) else .ok (fraction (a / b))

/-- Numbers that an operation can be applied to, in the arithmetic they share. -/
inductive Operands where
  | ints (a b : Int)
  | floats (a b : Binary64)
  | decimals (a b : Decimal)
  | fractions (a b : Rat)

/-- The arithmetic that two values share, if they do; bringing an operand into it may fail. -/
def operands? (left right : Value) : Option (Except Fault Operands) :=
  match left.integer?, left, right.integer?, right with
  | some a, _, some b, _ => some (.ok (.ints a b))
  | some a, _, _, float y => some ((floatOfInt a).map (.floats · y))
  | _, float x, some b, _ => some ((floatOfInt b).map (.floats x ·))
  | some a, _, _, decimal e => some (.ok (.decimals (.ofInt a) e))
  | _, decimal d, some b, _ => some (.ok (.decimals d (.ofInt b)))
  | some a, _, _, fraction r => some (.ok (.fractions a r))
  | _, fraction q, some b, _ => some (.ok (.fractions q b))
  | _, float x, _, float y => some (.ok (.floats x y))
  | _, decimal d, _, decimal e => some (.ok (.decimals d e))
  | _, fraction q, _, fraction r => some (.ok (.fractions q r))
  | _, float x, _, fraction r => some ((floatOfFraction r).map (.floats x ·))
  | _, fraction q, _, float y => some ((floatOfFraction q).map (.floats · y))
  | _, _, _, _ => .none

/-- The operation in the arithmetic of its operands. -/
def Operands.apply (op : BinaryOperator) : Operands → Except Fault Value
  | ints a b => intOperation op a b
  | floats a b => floatOperation op a b
  | decimals a b => decimalOperation op a b
  | fractions a b => fractionOperation op a b

/-! ### Texts and sequences -/

/-- The greatest number of times that something can be repeated, and of bytes in an object. -/
def greatestIndex : Int :=
  2 ^ 63 - 1

/-- How many bytes an object takes in which items follow each other. -/
structure Footprint where
  header : Nat
  item : Nat

def Footprint.ofList : Footprint :=
  ⟨0, 8⟩

def Footprint.ofTuple : Footprint :=
  ⟨24, 8⟩

/-- The characters of a text take as many bytes as the greatest of them needs, and one more of them
ends the text. -/
def Footprint.ofText (text : List Char) : Footprint :=
  if text.all (·.toNat < 0x80) then ⟨49, 1⟩
  else if text.all (·.toNat < 0x100) then ⟨73, 1⟩
  else if text.all (·.toNat < 0x10000) then ⟨74, 2⟩
  else ⟨76, 4⟩

/-- Items repeated; a negative count repeats nothing. However much memory there is, it does not hold
more bytes than can be addressed. -/
def repeatItems (footprint : Footprint) (items : List α) (count : Int) : Except Fault (List α) :=
  if items.isEmpty then .ok []
  else if greatestIndex < footprint.header + items.length * count.toNat * footprint.item then
    .error .memory
  else .ok (List.replicate count.toNat items).flatten

def repeated (sequence : Value) (count : Int) : Except Fault Value :=
  if greatestIndex < count ∨ count < -greatestIndex - 1 then .error (.overflow .index)
  else
    match sequence with
    | text s =>
      if greatestIndex < s.length * count then
        .error (.overflow (.argument "repeated string is too long"))
      else (repeatItems (.ofText s.toList) s.toList count).map fun chars =>
        text (String.ofList chars)
    | list items => (repeatItems .ofList items count).map list
    | tuple items => (repeatItems .ofTuple items count).map tuple
    | other => .error (.mismatch (.operand "*" other.typeName))

def isSequence : Value → Bool
  | text _ | list _ | tuple _ => true
  | _ => false

/-- The operation on values of which at least one is no number. -/
def sequenceOperation (op : BinaryOperator) (left right : Value) : Except Fault Value :=
  match op, left, right with
  | .add, text s, text t => .ok (text (s ++ t))
  | .add, list xs, list ys => .ok (list (xs ++ ys))
  | .add, tuple xs, tuple ys => .ok (tuple (xs ++ ys))
  | _, _, _ =>
    if op = .add ∧ left.isSequence then
      .error (.mismatch (.concatenation left.typeName right.typeName))
    else if op = .mul ∧ left.isSequence then
      match right.integer? with
      | some count => left.repeated count
      | .none => .error (.mismatch (.repetition right.typeName))
    else if op = .mul ∧ right.isSequence then
      match left.integer? with
      | some count => right.repeated count
      | .none => .error (.mismatch (.repetition left.typeName))
    else
      .error (.mismatch (.operands op.symbol.toString left.typeName right.typeName))

/-- The value of an operator applied to two values. -/
def apply (op : BinaryOperator) (left right : Value) : Except Fault Value :=
  match operands? left right with
  | some (.ok operands) => operands.apply op
  | some (.error fault) => .error fault
  | .none => sequenceOperation op left right

def negate (value : Value) : Except Fault Value :=
  match value.integer?, value with
  | some n, _ => .ok (int (-n))
  | _, float x => .ok (float x.negate)
  | _, decimal d => ofDecimal d.negate
  | _, fraction q => .ok (fraction (-q))
  | _, other => .error (.mismatch (.operand "unary -" other.typeName))

end Value

end Formula
