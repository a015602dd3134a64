import Formula.Value.Arithmetic

/-! Division in expressions. A division that arithmetic refuses, because the divisor is zero or
the quotient is beyond the greatest number, is either an error of the expression or gives the
infinity or `nan` that binary64 arithmetic prescribes. -/
namespace Formula

/-- What becomes of a division without a finite quotient. -/
inductive DivisionPolicy where
  | checked
  | unchecked
  deriving DecidableEq

def DivisionPolicy.ofFlag (check : Bool) : DivisionPolicy :=
  if check then checked else unchecked

namespace Value

def isZero : Value → Bool
  | int n => n == 0
  | bool value => !value
  | float x => x.isZero
  | decimal d => d.isZero
  | fraction q => q.num == 0
  | _ => false

def isBelowZero : Value → Bool
  | int n => n < 0
  | float x => x.isNegative && !x.isZero
  | decimal d => d.isNegative && !d.isZero && !d.isNaN
  | fraction q => q.num < 0
  | _ => false

def isNegativeZero : Value → Bool
  | float x => x.isZero && x.isNegative
  | decimal d => d.isZero && d.isNegative
  | _ => false

def isFloatNaN : Value → Bool
  | float x => x.isNaN
  | _ => false

/-- The infinity that a division gives: its sign combines the signs of the operands, a negative
zero among the divisors counting as negative. -/
def signedInfinity (left right : Value) : Value :=
  float (.infinity (left.isBelowZero != (right.isBelowZero || right.isNegativeZero)))

/-- The value that stands for a division refused with a fault: `nan` if zero or `nan` was divided by
what counts as zero, and otherwise an infinity. -/
def ieeeQuotient (fault : Fault) (left right : Value) : Value :=
  if fault.isZeroDivision && (left.isZero || left.isFloatNaN) then float .nan
  else signedInfinity left right

/-- The quotient of two values under a policy. Checked, no quotient is infinite; unchecked, every
quotient that only its size or a zero divisor would refuse has a value. -/
def divide (policy : DivisionPolicy) (left right : Value) : Except Fault Value :=
  match policy, apply .div left right with
  | .checked, .ok quotient =>
    if quotient.isInfinite then .error (.expression .divisionByZero) else .ok quotient
  | .checked, .error fault =>
    if fault.isInfiniteQuotient then .error (.expression .divisionByZero) else .error fault
  | .unchecked, .ok quotient => .ok quotient
  | .unchecked, .error fault =>
    if fault.isInfiniteQuotient then .ok (ieeeQuotient fault left right) else .error fault

/-- The value of an operator applied to two values, where division follows the policy. -/
def combine (policy : DivisionPolicy) (op : BinaryOperator) (left right : Value) :
    Except Fault Value :=
  if op = .div then divide policy left right else apply op left right

end Value

end Formula
