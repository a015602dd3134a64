import Formula.Number.Binary64.Basic
import Formula.Number.Rounding

/-! Rounding to binary64 and the operations defined by it. A result is the exact one rounded to
the nearest number, ties to the even significand; from 2^1024 - 2^970 on, half-way between the
greatest finite number and the next power of two, it is infinite. -/
namespace Formula.Binary64

/-- The least magnitude that rounds to infinity, in multiples of the least positive number. -/
def overflowUnits : Nat :=
  (2 ^ 54 - 1) * 2 ^ 2044

/-- The number of the given sign nearest to `n / d` least positive numbers. -/
def roundUnits (negative : Bool) (n d : Nat) : Binary64 :=
  if overflowUnits * d ≤ n then
    infinity negative
  else
    let exponent := Nat.log2 (n / d) - 52
    let significand := nearestEven n (d * 2 ^ exponent)
    if significand = 2 ^ 53 then finite negative (2 ^ 52) (exponent + 1)
    else finite negative significand exponent

/-- The number of the given sign nearest to `n / d`. -/
def ofQuotient (negative : Bool) (n d : Nat) : Binary64 :=
  roundUnits negative (n * oneUnits) d

def ofInt (n : Int) : Binary64 :=
  ofQuotient (n < 0) n.natAbs 1

def ofRat (q : Rat) : Binary64 :=
  ofQuotient (q.num < 0) q.num.natAbs q.den

/-- The number nearest to `± coefficient · 10 ^ exponent`. Powers of ten far beyond the range are
not computed: the digit count alone decides. -/
def ofScientific (negative : Bool) (coefficient : Nat) (exponent : Int) : Binary64 :=
  if coefficient = 0 then finite negative 0 0
  else
    let leading := exponent + (Nat.toDigits 10 coefficient).length
    if leading > 400 then infinity negative
    else if leading < -400 then finite negative 0 0
    else if exponent < 0 then ofQuotient negative coefficient (10 ^ (-exponent).toNat)
    else ofQuotient negative (coefficient * 10 ^ exponent.toNat) 1

/-- Sum. Opposite infinities have none; an exact zero is negative only if both operands are. -/
def add : Binary64 → Binary64 → Binary64
  | nan, _ => nan
  | _, nan => nan
  | infinity a, infinity b => if a = b then infinity a else nan
  | infinity a, finite .. => infinity a
  | finite .., infinity b => infinity b
  | x@(finite a _ _), y@(finite b _ _) =>
    let total := x.units + y.units
    if total = 0 then finite (a && b) 0 0 else roundUnits (total < 0) total.natAbs 1

def sub (x y : Binary64) : Binary64 :=
  add x y.negate

/-- Product. Zero times infinity is not a number. -/
def mul : Binary64 → Binary64 → Binary64
  | nan, _ => nan
  | _, nan => nan
  | infinity a, infinity b => infinity (a != b)
  | infinity a, y@(finite b _ _) => if y.isZero then nan else infinity (a != b)
  | x@(finite a _ _), infinity b => if x.isZero then nan else infinity (a != b)
  | x@(finite a _ _), y@(finite b _ _) =>
    roundUnits (a != b) (x.magnitudeUnits * y.magnitudeUnits) oneUnits

/-- Quotient. Zero by zero and infinity by infinity are not numbers; any other number divided by
zero is infinite. -/
def div : Binary64 → Binary64 → Binary64
  | nan, _ => nan
  | _, nan => nan
  | infinity _, infinity _ => nan
  | infinity a, finite b _ _ => infinity (a != b)
  | finite a _ _, infinity b => finite (a != b) 0 0
  | x@(finite a _ _), y@(finite b _ _) =>
    if y.isZero then
      if x.isZero then nan else infinity (a != b)
    else
      ofQuotient (a != b) x.magnitudeUnits y.magnitudeUnits

/-- The number nearest to the square root of `n` least positive numbers. One further bit after the
integer root tells whether the root is exact. -/
def sqrtUnits (n : Nat) : Binary64 :=
  let square := n * oneUnits
  let root := Nat.sqrt square
  roundUnits false (2 * root + if root * root = square then 0 else 1) 2

/-- Square root. The root of a negative number other than zero is not a number. -/
def sqrt : Binary64 → Binary64
  | nan => nan
  | infinity negative => if negative then nan else infinity false
  | x@(finite negative _ _) =>
    if x.isZero then x else if negative then nan else sqrtUnits x.magnitudeUnits

/-- Remainder of the division that truncates its quotient; it has the sign of the dividend. The
dividend is finite and the divisor is neither zero nor `nan`. -/
def remainder (x y : Binary64) : Binary64 :=
  if y.isInfinite then x
  else roundUnits x.isNegative (x.magnitudeUnits % y.magnitudeUnits) 1

end Formula.Binary64
