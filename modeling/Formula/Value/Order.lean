import Formula.Value.Arithmetic

/-! Order of values. Numbers of any two kinds are compared exactly, without rounding either of
them; texts are ordered by their characters. A decimal that is not a number has no order and asking
for it is invalid, while a binary64 `nan` is less than nothing and nothing is less than it. -/
namespace Formula.Value

/-- A finite binary64 number as a decimal number, exactly. -/
def decimalOfFloat : Binary64 → Decimal
  | .nan => .nan false false 0
  | .infinity negative => .infinity negative
  | x@(.finite negative _ _) => .finite negative (x.magnitudeUnits * 5 ^ 1074) (-1074)

def compareDecimalFraction? (d : Decimal) (q : Rat) : Option Ordering :=
  match d with
  | .finite negative coefficient exponent =>
    Decimal.compare? (.finite negative (coefficient * q.den) exponent) (.ofInt q.num)
  | other => Decimal.compare? other (.ofInt 0)

def compareFloatFraction? (x : Binary64) (q : Rat) : Option Ordering :=
  match x with
  | .nan => Option.none
  | .infinity negative => some (if negative then .lt else .gt)
  | x => some (compare x.toRat q)
where
  /-- Order of two fractions. -/
  compare (p q : Rat) : Ordering := if p < q then .lt else if q < p then .gt else .eq

/-- The number that a value is, where the truth values count as integers. -/
def numberOf (value : Value) : Value :=
  match value.integer? with
  | some n => int n
  | Option.none => value

/-- The order of two decimals, which both have to be numbers. -/
def orderDecimals (d e : Decimal) : Except Fault (Option Ordering) :=
  match Decimal.compare? d e with
  | Option.none => .error (.decimal .invalidOperation)
  | order => .ok order

/-- The order of two numbers, if both values are numbers. -/
def compareNumbers? (left right : Value) : Option (Except Fault (Option Ordering)) :=
  match left.numberOf, right.numberOf with
  | int a, int b => some (.ok (some (compare a b)))
  | int a, float y => some (.ok ((compareFloatFraction? y a).map Ordering.swap))
  | float x, int b => some (.ok (compareFloatFraction? x b))
  | int a, decimal e => some (orderDecimals (.ofInt a) e)
  | decimal d, int b => some (orderDecimals d (.ofInt b))
  | int a, fraction r => some (.ok (some (compareFloatFraction?.compare a r)))
  | fraction q, int b => some (.ok (some (compareFloatFraction?.compare q b)))
  | float x, float y => some (.ok (Binary64.compare? x y))
  | decimal d, decimal e => some (orderDecimals d e)
  | fraction q, fraction r => some (.ok (some (compareFloatFraction?.compare q r)))
  | float x, fraction r => some (.ok (compareFloatFraction? x r))
  | fraction q, float y => some (.ok ((compareFloatFraction? y q).map Ordering.swap))
  | float x, decimal e => some (orderDecimals (decimalOfFloat x) e)
  | decimal d, float y => some (orderDecimals d (decimalOfFloat y))
  | decimal d, fraction r =>
    if d.isNaN then some (.error (.decimal .invalidOperation))
    else some (.ok (compareDecimalFraction? d r))
  | fraction q, decimal e =>
    if e.isNaN then some (.error (.decimal .invalidOperation))
    else some (.ok ((compareDecimalFraction? e q).map Ordering.swap))
  | _, _ => Option.none

/-- The order of two values, as far as there is one; the symbol of the relation asked for stands in
the fault if the values cannot be compared. -/
def order (symbol : String) (left right : Value) : Except Fault (Option Ordering) :=
  match compareNumbers? left right, left, right with
  | some outcome, _, _ => outcome
  | Option.none, text s, text t => .ok (some (if s < t then .lt else if t < s then .gt else .eq))
  | Option.none, _, _ => .error (.mismatch (.unordered symbol left.typeName right.typeName))

end Formula.Value
