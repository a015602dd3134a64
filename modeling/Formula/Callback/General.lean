import Formula.Callback.Primitive
import Formula.Number.Binary64.Reader
import Formula.Value.Order
import Formula.Value.Rounded

/-! Primitives of general use: absolute value, conversion to binary64 numbers, extremes, powers and
rounding. -/
namespace Formula.Primitive

/-- The value as a binary64 number; a text is read as a numeral. -/
def toFloat (value : Value) : Except Fault Value :=
  match value with
  | .text s =>
    match Binary64.read? s with
    | some x => .ok (.float x)
    | none => .error (.value (.argument ("could not convert string to float: " ++ Text.quoted s)))
  | _ =>
    match float? value with
    | some outcome => outcome.map .float
    | none =>
      .error (.mismatch (.argument
        ("float() argument must be a string or a real number, not '" ++ value.typeName ++ "'")))

/-- The conversion to binary64 numbers; without argument it gives zero. -/
def float : Primitive where
  name := "float"
  signature := some ⟨1, 1, false, 0⟩
  apply
    | [] => .ok (.float .zero)
    | [value] => toFloat value
    | arguments =>
      wrongCount ("float expected at most 1 argument, got " ++ toString arguments.length)

structure Extreme where
  name : String
  symbol : String
  order : Ordering

/-- The first value, or a later one each time that it stands in the order to the one so far. -/
def extremeOf (extreme : Extreme) (first : Value) (others : List Value) : Except Fault Value :=
  others.foldlM (fun best value => do
    let order ← Value.order extreme.symbol value best
    .ok (if order = some extreme.order then value else best)) first

/-- The extreme of several arguments, or of the elements of a single one. -/
def choose (extreme : Extreme) : Primitive where
  name := extreme.name
  signature := none
  apply
    | [] => wrongCount (extreme.name ++ " expected at least 1 argument, got 0")
    | [collection] => do
      match ← elements collection with
      | first :: others => extremeOf extreme first others
      | [] => .error (.value (.argument (extreme.name ++ "() arg is an empty sequence")))
    | first :: others => extremeOf extreme first others

/-- The fault of a call that leaves out a parameter or has too many arguments. -/
def wrongNamedCount (name : String) (required : List String) (limit : Nat) (count : Nat) :
    Except Fault α :=
  match required.drop count with
  | missing :: _ =>
    wrongCount (name ++ "() missing required argument '" ++ missing ++ "' (pos " ++
      toString (count + 1) ++ ")")
  | [] =>
    wrongCount (name ++ "() takes at most " ++ toString limit ++ " arguments (" ++ toString count ++
      " given)")

/-- Power, in the arithmetic of a modulus if there is a third argument. -/
def pow : Primitive where
  name := "pow"
  signature := some ⟨3, 1, false, 0⟩
  apply
    | [base, exponent] | [base, exponent, .none] => Value.power base exponent
    | [base, exponent, modulus] => Value.modularPower base exponent modulus
    | arguments => wrongNamedCount "pow" ["base", "exp"] 3 arguments.length

/-- Rounding, to decimal places if there is a second argument. -/
def round : Primitive where
  name := "round"
  signature := some ⟨2, 1, false, 0⟩
  apply
    | [value] | [value, .none] => Value.roundWhole value
    | [value, places] => Value.roundTo value places
    | arguments => wrongNamedCount "round" ["number"] 2 arguments.length

def general : List Primitive :=
  [unary "abs" "abs" Value.absolute, float, choose ⟨"max", ">", .gt⟩, choose ⟨"min", "<", .lt⟩,
    pow, round]

end Formula.Primitive
