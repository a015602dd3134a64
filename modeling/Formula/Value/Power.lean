import Formula.Number.Binary64.Machine
import Formula.Number.Decimal.Power
import Formula.Number.Integer
import Formula.Value.Order

/-! Powers of values. An integral power of an integer or a fraction is exact, a negative power of
an integer is a binary64 number, and decimals keep to themselves and integers. A power may be taken
in the arithmetic of a modulus, for integers and for integral decimals. -/
namespace Formula

namespace Binary64

def isOdd (x : Binary64) : Bool :=
  x.isInteger && x.truncate % 2 != 0

end Binary64

namespace Value

/-- The fault of values between which there are no powers. -/
def noPower (base exponent : Value) : Except Fault Value :=
  .error (.mismatch (.operands "** or pow()" base.typeName exponent.typeName))

/-- The power of two binary64 numbers neither of which is special: the base is finite and not zero,
the exponent is finite. A fractional power of a negative number is `nan`. -/
def regularPower (x y : Binary64) : Except Fault Value :=
  if x.isNegative && !y.isInteger then .ok (float .nan)
  else
    let magnitude := x.abs.finitePower y
    if magnitude.isInfinite then
      .error (.overflow (.argument "(34, 'Numerical result out of range')"))
    else .ok (float (if x.isNegative && y.isOdd then magnitude.negate else magnitude))

def floatPower (x y : Binary64) : Except Fault Value :=
  if y.isZero then .ok (float .one)
  else if x.isNaN then .ok (float .nan)
  else if y.isNaN then .ok (float (if x.equals .one then .one else .nan))
  else if y.isInfinite then
    if x.abs.equals .one then .ok (float .one)
    else if y.isNegative == x.abs.less .one then .ok (float (.infinity false))
    else .ok (float .zero)
  else if x.isInfinite then
    let negative := x.isNegative && y.isOdd
    .ok (float (if y.isNegative then .finite negative 0 0 else .infinity negative))
  else if x.isZero then
    if y.isNegative then .error (.zeroDivision .power)
    else .ok (float (if y.isOdd then x else .zero))
  else regularPower x y

def intPower (base exponent : Int) : Except Fault Value :=
  if 0 ≤ exponent then .ok (int (base ^ exponent.toNat))
  else do
    let x ← floatOfInt base
    let y ← floatOfInt exponent
    floatPower x y

def fractionPower (base : Rat) (exponent : Int) : Except Fault Value :=
  let n := exponent.natAbs
  if 0 ≤ exponent then .ok (fraction (mkRat (base.num ^ n) (base.den ^ n)))
  else if base.num = 0 then .error (.zeroDivision (.fraction 1))
  else
    let numerator : Int := if base.num < 0 then -(base.den : Int) else base.den
    .ok (fraction (mkRat (numerator ^ n) (base.num.natAbs ^ n)))

/-- The power of two fractions in binary64 arithmetic. -/
def fractionalPower (base exponent : Rat) : Except Fault Value := do
  let x ← floatOfFraction base
  let y ← floatOfFraction exponent
  floatPower x y

def powerByFraction (base : Value) (exponent : Rat) : Except Fault Value :=
  match base.numberOf with
  | int a =>
    if exponent.den ≠ 1 then fractionalPower a exponent
    else if 0 ≤ exponent.num then intPower a exponent.num
    else fractionPower a exponent.num
  | fraction q =>
    if exponent.den = 1 then fractionPower q exponent.num else fractionalPower q exponent
  | float x => do
    let y ← if exponent.den = 1 then floatOfInt exponent.num else floatOfFraction exponent
    floatPower x y
  | decimal d => do
    if exponent.den = 1 then ofDecimal (d.pow (.ofInt exponent.num))
    else
      let y ← floatOfFraction exponent
      noPower base (float y)
  | _ => do
    if exponent.den = 1 then noPower base (int exponent.num)
    else
      let y ← floatOfFraction exponent
      noPower base (float y)

def power (base exponent : Value) : Except Fault Value :=
  match base.numberOf, exponent.numberOf with
  | _, fraction r => powerByFraction base r
  | int a, int n => intPower a n
  | int a, float y => do
    let x ← floatOfInt a
    floatPower x y
  | float x, int n => do
    let y ← floatOfInt n
    floatPower x y
  | float x, float y => floatPower x y
  | decimal d, decimal e => ofDecimal (d.pow e)
  | decimal d, int n => ofDecimal (d.pow (.ofInt n))
  | int a, decimal e => ofDecimal ((Decimal.ofInt a).pow e)
  | fraction q, int n => fractionPower q n
  | fraction q, float y => do
    let x ← floatOfFraction q
    floatPower x y
  | fraction q, _ => do
    let x ← floatOfFraction q
    noPower (float x) exponent
  | _, _ => noPower base exponent

/-! ### Modular arithmetic -/

/-- The integers that decimals are, if all of them are integers. -/
def decimalIntegers? (values : List Decimal) : Option (List Int) :=
  values.mapM (·.toInt?)

/-- The power of decimals in the arithmetic of a modulus. The result has the sign of the power. -/
def decimalModularPower (base exponent modulus : Decimal) : Except Decimal.Condition Decimal :=
  match Decimal.nanResult? base exponent, Decimal.nanResult? modulus modulus with
  | some result, _ => result
  | Option.none, some result => result
  | Option.none, Option.none =>
    match decimalIntegers? [base, exponent, modulus] with
    | some [a, n, m] =>
      if m = 0 ∨ n < 0 ∨ (a = 0 ∧ n = 0) ∨ 10 ^ Decimal.working.digits ≤ m.natAbs then
        .error .invalidOperation
      else
        .ok (.finite (a < 0 && n % 2 != 0)
          (Integer.powerRemainder a.natAbs n.toNat m.natAbs) 0)
    | _ => .error .invalidOperation

def asDecimal? (value : Value) : Option Decimal :=
  match value.numberOf with
  | int n => some (.ofInt n)
  | decimal d => some d
  | _ => Option.none

def isFloat : Value → Bool
  | float _ => true
  | _ => false

/-- The fault of a power in the arithmetic of a modulus between values that have none. -/
def noModularPower (base exponent modulus : Value) : Except Fault Value :=
  match base with
  | fraction _ =>
    .error (.mismatch (.argument
      "Fraction.__pow__() takes 2 positional arguments but 3 were given"))
  | _ =>
    if base.isFloat || exponent.isFloat || modulus.isFloat then
      .error (.mismatch (.argument
        "pow() 3rd argument not allowed unless all arguments are integers"))
    else
      .error (.mismatch (.argument
        ("unsupported operand type(s) for ** or pow(): '" ++ base.typeName ++ "', '" ++
          exponent.typeName ++ "', '" ++ modulus.typeName ++ "'")))

/-- The power of integers in the arithmetic of a modulus. -/
def intModularPower (base exponent modulus : Int) : Except Fault Value :=
  if modulus = 0 then .error (.value (.argument "pow() 3rd argument cannot be 0"))
  else
    match Integer.modularPower? base exponent modulus with
    | some n => .ok (int n)
    | Option.none =>
      .error (.value (.argument "base is not invertible for the given modulus"))

/-- The power of values in the arithmetic of a modulus. -/
def modularPower (base exponent modulus : Value) : Except Fault Value :=
  match base.integer?, exponent.integer?, modulus.integer? with
  | some a, some n, some m => intModularPower a n m
  | _, _, _ =>
    match base.asDecimal?, exponent.asDecimal?, modulus.asDecimal? with
    | some d, some e, some m => ofDecimal (decimalModularPower d e m)
    | _, _, _ => noModularPower base exponent modulus

end Value

end Formula
