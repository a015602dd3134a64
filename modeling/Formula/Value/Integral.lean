import Formula.Number.Decimal.Power
import Formula.Value.Arithmetic

/-! The integers next to a number, and absolute values. Every finite number is a quotient of
integers, and a direction says which integer stands for a quotient. -/
namespace Formula

/-- Which integer stands for a number between two integers. -/
inductive Direction where
  | down
  | up
  | towardsZero
  | nearest
  deriving DecidableEq

/-- The integer that stands for the quotient `n / d`; of two nearest ones it is the even one. -/
def Direction.quotient (direction : Direction) (n : Int) (d : Nat) : Int :=
  match direction with
  | down => n.fdiv d
  | up => -((-n).fdiv d)
  | towardsZero => n.tdiv d
  | nearest => if n < 0 then -(nearestEven n.natAbs d : Int) else nearestEven n.natAbs d

namespace Value

def integerOfFloat (direction : Direction) (x : Binary64) : Except Fault Int :=
  match x with
  | .nan => .error (.value (.argument "cannot convert float NaN to integer"))
  | .infinity _ => .error (.overflow .infiniteInteger)
  | x => .ok (direction.quotient x.units Binary64.oneUnits)

/-- The integer next to a decimal. A magnitude below one tenth is compared as one tenth is, which
avoids great powers of ten. -/
def integerOfDecimal (direction : Direction) (d : Decimal) : Except Fault Int :=
  match d with
  | .nan .. => .error (.value (.argument "cannot convert NaN to integer"))
  | .infinity _ => .error (.overflow (.argument "cannot convert Infinity to integer"))
  | .finite negative coefficient exponent =>
    let n := Decimal.signed negative coefficient
    if 0 ≤ exponent then .ok (n * 10 ^ exponent.toNat)
    else if Text.digitCount coefficient < (-exponent).toNat then .ok (direction.quotient n.sign 10)
    else .ok (direction.quotient n (10 ^ (-exponent).toNat))

/-- The integer next to a value, if the value is a number. -/
def towardsInteger? (direction : Direction) (value : Value) : Option (Except Fault Int) :=
  match value.integer?, value with
  | some n, _ => some (.ok n)
  | _, float x => some (integerOfFloat direction x)
  | _, decimal d => some (integerOfDecimal direction d)
  | _, fraction q => some (.ok (direction.quotient q.num q.den))
  | _, _ => Option.none

def absolute (value : Value) : Except Fault Value :=
  match value.integer?, value with
  | some n, _ => .ok (int n.natAbs)
  | _, float x => .ok (float x.abs)
  | _, decimal d => ofDecimal d.abs
  | _, fraction q => .ok (fraction (if q.num < 0 then -q else q))
  | _, other => .error (.mismatch (.operand "abs()" other.typeName))

end Value

end Formula
