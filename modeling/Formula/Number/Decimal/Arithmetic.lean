import Formula.Number.Decimal.Basic
import Formula.Number.Rounding

/-! Decimal arithmetic to a fixed precision. A result is the exact one rounded to twenty-eight
digits, ties to the even digit. Invalid operations, divisions by zero and overflows have no
result but a condition. -/
namespace Formula.Decimal

inductive Condition where
  | invalidOperation
  | divisionUndefined
  | divisionByZero
  | overflow
  deriving DecidableEq

/-- Number of digits and range of the exponent of the leading digit. -/
structure Precision where
  digits : Nat
  least : Int
  greatest : Int

def working : Precision :=
  ⟨28, -999999, 999999⟩

def Precision.tiny (p : Precision) : Int :=
  p.least - (p.digits - 1 : Nat)

/-- The greatest exponent of a coefficient with all its digits. -/
def Precision.top (p : Precision) : Int :=
  p.greatest - (p.digits - 1 : Nat)

/-- `coefficient` without its last `count` digits, rounded. A coefficient of fewer digits rounds
to zero, which avoids a great power of ten. -/
def dropDigits (coefficient count : Nat) : Nat :=
  if Text.digitCount coefficient < count then 0 else nearestEven coefficient (10 ^ count)

/-- The number of the given precision nearest to `± coefficient · 10 ^ exponent`, with that
exponent where it fits. -/
def fit (p : Precision) (negative : Bool) (coefficient : Nat) (exponent : Int) :
    Except Condition Decimal :=
  if coefficient = 0 then .ok (finite negative 0 (max p.tiny (min exponent p.greatest)))
  else
    let least := exponent + Text.digitCount coefficient - p.digits
    if p.top < least then .error .overflow
    else
      let lowest := max least p.tiny
      if exponent < lowest then
        let rounded := dropDigits coefficient (lowest - exponent).toNat
        if rounded = 10 ^ p.digits then
          if p.top < lowest + 1 then .error .overflow
          else .ok (finite negative (10 ^ (p.digits - 1)) (lowest + 1))
        else .ok (finite negative rounded lowest)
      else .ok (finite negative coefficient exponent)

/-- A quiet number that is none, with as many payload digits as the precision holds. -/
def quiet (p : Precision) (negative : Bool) (payload : Nat) : Decimal :=
  nan negative false (payload % 10 ^ p.digits)

/-- What an operation gives when an operand is not a number: a signaling one is invalid, and else
the first quiet one is passed on. -/
def nanResult? : Decimal → Decimal → Option (Except Condition Decimal)
  | nan _ true _, _ => some (.error .invalidOperation)
  | _, nan _ true _ => some (.error .invalidOperation)
  | nan negative false payload, _ => some (.ok (quiet working negative payload))
  | _, nan negative false payload => some (.ok (quiet working negative payload))
  | _, _ => none

/-- Brings the smaller of two positive magnitudes so near to the larger one, which has the digit
count `digits` and the exponent `exponent`, that both can be written with one exponent: what lies
beyond the last place that can influence rounding counts as a single digit there. -/
def bringNear (digits : Nat) (exponent : Int) (coefficient : Nat) (place : Int) : Nat × Int :=
  let horizon := exponent + min (-1) ((digits : Int) - working.digits - 2)
  if Text.digitCount coefficient + place - 1 < horizon then (1, horizon) else (coefficient, place)

/-- Two positive magnitudes with a common exponent, the first with the greater exponent. -/
def alignOrdered (c : Nat) (e : Int) (d : Nat) (f : Int) : Nat × Nat × Int :=
  let (near, place) := bringNear (Text.digitCount c) e d f
  (c * 10 ^ (e - place).toNat, near, place)

/-- Two magnitudes with a common exponent, as far as rounding of their sum can tell. A zero does
not lower the exponent further than the digits of the other magnitude allow. -/
def align (c : Nat) (e : Int) (d : Nat) (f : Int) : Nat × Nat × Int :=
  if c = 0 ∧ d = 0 then (0, 0, min e f)
  else if c = 0 then
    let place := max (min e f) (f - working.digits - 1)
    (0, d * 10 ^ (f - place).toNat, place)
  else if d = 0 then
    let place := max (min e f) (e - working.digits - 1)
    (c * 10 ^ (e - place).toNat, 0, place)
  else if e < f then
    let (high, low, place) := alignOrdered d f c e
    (low, high, place)
  else alignOrdered c e d f

def signed (negative : Bool) (n : Nat) : Int :=
  if negative then -(n : Int) else n

/-- Sum. An exact zero is negative only if both operands are. -/
def add (x y : Decimal) : Except Condition Decimal :=
  match nanResult? x y with
  | some result => result
  | none =>
    match x, y with
    | infinity a, infinity b => if a = b then .ok (infinity a) else .error .invalidOperation
    | infinity a, _ => .ok (infinity a)
    | _, infinity b => .ok (infinity b)
    | finite a c e, finite b d f =>
      let (left, right, place) := align c e d f
      let total := signed a left + signed b right
      if total = 0 then fit working (a && b) 0 (min e f)
      else fit working (total < 0) total.natAbs place
    | _, _ => .error .invalidOperation

def sub (x y : Decimal) : Except Condition Decimal :=
  match nanResult? x y with
  | some result => result
  | none => add x (y.withSign (!y.isNegative))

def mul (x y : Decimal) : Except Condition Decimal :=
  match nanResult? x y with
  | some result => result
  | none =>
    let negative := x.isNegative != y.isNegative
    if x.isInfinite || y.isInfinite then
      if x.isZero || y.isZero then .error .invalidOperation else .ok (infinity negative)
    else
      match x, y with
      | finite _ c e, finite _ d f => fit working negative (c * d) (e + f)
      | _, _ => .error .invalidOperation

/-- Takes zeros off the end of an exact quotient while its exponent is below `ideal`. -/
def trimZeros (ideal : Int) : Nat → Nat → Int → Nat × Int
  | 0, coefficient, exponent => (coefficient, exponent)
  | steps + 1, coefficient, exponent =>
    if exponent < ideal ∧ coefficient % 10 = 0 then
      trimZeros ideal steps (coefficient / 10) (exponent + 1)
    else (coefficient, exponent)

/-- Quotient of two positive coefficients of the given exponents: one digit more than the
precision, with a last digit that tells an inexact quotient, or an exact one with an exponent as
near as possible to the difference of the exponents. -/
def quotient (c : Nat) (e : Int) (d : Nat) (f : Int) : Nat × Int :=
  let shift : Int := (Text.digitCount d : Int) - Text.digitCount c + working.digits + 1
  let numerator := c * 10 ^ shift.toNat
  let denominator := d * 10 ^ (-shift).toNat
  let digits := numerator / denominator
  if numerator % denominator = 0 then
    trimZeros (e - f) (shift.toNat + 1) digits (e - f - shift)
  else
    (if digits % 5 = 0 then digits + 1 else digits, e - f - shift)

def div (x y : Decimal) : Except Condition Decimal :=
  match nanResult? x y with
  | some result => result
  | none =>
    let negative := x.isNegative != y.isNegative
    match x, y with
    | infinity _, infinity _ => .error .invalidOperation
    | infinity _, _ => .ok (infinity negative)
    | _, infinity _ => .ok (finite negative 0 working.tiny)
    | finite _ c e, finite _ d f =>
      if d = 0 then
        if c = 0 then .error .divisionUndefined else .error .divisionByZero
      else if c = 0 then fit working negative 0 (e - f)
      else
        let (coefficient, exponent) := quotient c e d f
        fit working negative coefficient exponent
    | _, _ => .error .invalidOperation

/-- The number rounded to the working precision, with the given sign. -/
def rounded (negative : Bool) : Decimal → Except Condition Decimal
  | nan _ true _ => .error .invalidOperation
  | nan own false payload => .ok (quiet working own payload)
  | infinity _ => .ok (infinity negative)
  | finite _ coefficient exponent => fit working negative coefficient exponent

/-- Negation: zero less the number, so that no zero is negative. -/
def negate (x : Decimal) : Except Condition Decimal :=
  rounded (!x.isNegative && !x.isZero) x

def abs (x : Decimal) : Except Condition Decimal :=
  rounded false x

end Formula.Decimal
