import Formula.Number.Binary64.Functions
import Formula.Value.Integral
import Formula.Value.Power

/-! Rounded values. Without a number of places the result is the nearest integer; with one it stays
in the kind of the value. Of two nearest numbers the one with an even last digit is taken. -/
namespace Formula.Value

def roundWhole (value : Value) : Except Fault Value :=
  match towardsInteger? .nearest value with
  | some outcome => outcome.map int
  | Option.none => .error (.mismatch (.missingMethod value.typeName "__round__"))

def placesOf (places : Value) : Except Fault Int :=
  match places.integer? with
  | some count => .ok count
  | Option.none => .error (.mismatch (.notAnInteger places.typeName))

/-- The multiple of a power of ten nearest to an integer. -/
def roundInt (n places : Int) : Int :=
  let dropped := (-places).toNat
  if Text.digitCount n.natAbs < dropped then 0
  else Direction.nearest.quotient n (10 ^ dropped) * 10 ^ dropped

/-- A binary64 number rounded to decimal places. -/
def roundFloat (x : Binary64) (places : Int) : Except Fault Value :=
  if x.isFinite then
    let rounded := x.roundPlaces places
    if rounded.isFinite then .ok (float rounded)
    else .error (.overflow (.argument "rounded value too large to represent"))
  else .ok (float x)

def roundDecimal (d : Decimal) (places : Value) : Except Fault Value :=
  match places.integer? with
  | Option.none => .error (.mismatch (.argument "optional arg must be an integer"))
  | some count =>
    if count.natAbs ≤ greatestIndex then ofDecimal (d.quantize count)
    else .error (.overflow (.argument "Python int too large to convert to C ssize_t"))

def exactFraction (value : Value) : Except Fault Value :=
  match value with
  | int n => .ok (fraction n)
  | float .nan => .error (.value (.argument "cannot convert NaN to integer ratio"))
  | float (.infinity _) =>
    .error (.overflow (.argument "cannot convert Infinity to integer ratio"))
  | float x => .ok (fraction x.toRat)
  | other => .ok other

/-- The quotient of two integers as a fraction. -/
def exactQuotient (numerator denominator : Value) : Except Fault Value :=
  match numerator, denominator with
  | int n, int d => .ok (fraction (mkRat n d.toNat))
  | _, _ => .error (.mismatch (.argument "both arguments should be Rational instances"))

/-- A fraction rounded to decimal places. The number of places may be any number of which ten has a
power. -/
def roundFraction (q : Rat) (places : Value) : Except Fault Value := do
  let shift ← power (int 10) (← absolute places)
  if (← order ">" places (int 0)) = some .gt then
    exactQuotient (← roundWhole (← apply .mul (fraction q) shift)) shift
  else
    exactFraction (← apply .mul (← roundWhole (← apply .div (fraction q) shift)) shift)

def roundTo (value places : Value) : Except Fault Value :=
  match value.numberOf with
  | int n => do
    let count ← placesOf places
    .ok (int (roundInt n count))
  | float x => do
    let count ← placesOf places
    roundFloat x count
  | decimal d => roundDecimal d places
  | fraction q => roundFraction q places
  | _ => .error (.mismatch (.missingMethod value.typeName "__round__"))

end Formula.Value
