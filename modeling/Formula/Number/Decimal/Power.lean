import Formula.Number.Decimal.Arithmetic
import Formula.Number.Series

/-! Powers of decimals. An integral power is the exact one, rounded; any other is rounded from the
exponential series, with many more places than the precision. -/
namespace Formula.Decimal

def toInt? : Decimal → Option Int
  | finite negative coefficient exponent =>
    if coefficient = 0 then some 0
    else if exponent < 0 then
      if Text.digitCount coefficient < (-exponent).toNat then none
      else if coefficient % 10 ^ (-exponent).toNat = 0 then
        some (signed negative (coefficient / 10 ^ (-exponent).toNat))
      else none
    else if exponent > 20 then none
    else some (signed negative (coefficient * 10 ^ exponent.toNat))
  | _ => none

def naturalPower (negative : Bool) (coefficient : Nat) (exponent : Int) (n : Nat) :
    Except Condition Decimal :=
  fit working (negative && n % 2 == 1) (coefficient ^ n) (exponent * n)

def powerPlaces : Nat :=
  400

/-- A power with a positive base and an exponent that is no small integer, as digits of twice the
precision with an exponent. -/
def realPower (coefficient : Nat) (exponent : Int) (n : Int) (d : Nat) : Except Condition Decimal :=
  let ten := Series.log powerPlaces 10 1
  let base := Series.log powerPlaces coefficient 1 + exponent * ten
  let logarithm := base * n / d
  let power := logarithm / ten
  if power > 1000000 then .error .overflow
  else if power < -1000100 then fit working false 1 (-1000100)
  else
    let mantissa := Series.exp powerPlaces (logarithm - power * ten)
    let digits := 2 * working.digits
    fit working false (mantissa.toNat * 10 ^ digits / 2 ^ powerPlaces) (power - digits)

/-- Power. Zero to the power zero and the fractional powers of negative numbers are invalid. -/
def pow (x y : Decimal) : Except Condition Decimal :=
  match nanResult? x y with
  | some result => result
  | none =>
    match x, y, y.toInt? with
    | finite negative c e, _, some n =>
      if n = 0 then
        if c = 0 then .error .invalidOperation else .ok (finite false 1 0)
      else if c = 0 then
        let sign := negative && n % 2 != 0
        if n < 0 then .ok (infinity sign) else fit working sign 0 (e * n)
      else if n.natAbs ≤ 100000 then
        if 0 < n then naturalPower negative c e n.toNat
        else do
          let inverse ← naturalPower negative c e n.natAbs
          div (finite false 1 0) inverse
      else realPower c e n 1
    | finite negative c e, finite negative' d f, none =>
      if c = 0 then .ok (if negative' then infinity false else finite false 0 0)
      else if negative then .error .invalidOperation
      else
        let n := signed negative' (d * 10 ^ f.toNat)
        realPower c e n (10 ^ (-f).toNat)
    | infinity negative, _, some n =>
      if n = 0 then .ok (finite false 1 0)
      else
        let sign := negative && n % 2 != 0
        if n < 0 then fit working sign 0 0 else .ok (infinity sign)
    | infinity negative, _, none =>
      if negative then .error .invalidOperation
      else if y.isNegative then .ok (finite false 0 0) else .ok (infinity false)
    | finite negative c e, infinity below, none =>
      if negative && c != 0 then .error .invalidOperation
      else
        match compareMagnitude c e 1 0 with
        | .eq => fit working false (10 ^ (working.digits - 1)) (1 - working.digits)
        | .lt => .ok (if below then infinity false else finite false 0 0)
        | .gt => .ok (if below then finite false 0 0 else infinity false)
    | _, _, _ => .error .invalidOperation

/-- The number rounded to a number of decimal places, if the digits suffice. -/
def quantize (x : Decimal) (places : Int) : Except Condition Decimal :=
  match x with
  | nan _ true _ => .error .invalidOperation
  | nan negative false payload => .ok (quiet working negative payload)
  | infinity _ => .error .invalidOperation
  | finite negative coefficient exponent =>
    let target := -places
    let shift := exponent - target
    if shift > working.digits ∧ coefficient ≠ 0 then .error .invalidOperation
    else
      let digits :=
        if shift < 0 then dropDigits coefficient (-shift).toNat
        else if coefficient = 0 then 0
        else coefficient * 10 ^ shift.toNat
      if working.digits < Text.digitCount digits then .error .invalidOperation
      else .ok (finite negative digits target)

end Formula.Decimal
