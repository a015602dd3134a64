import Formula.Callback.Signature
import Formula.Value.Arithmetic

/-! Primitive callbacks: named functions on values that keep no state. This module has their type
and the ways in which they take numbers as arguments. -/
namespace Formula

/-- A named function on values. One without signature may be called with any number of arguments,
as far as is known before the call. -/
structure Primitive where
  name : String
  signature : Option Signature
  apply : List Value → Except Fault Value

namespace Primitive

def floatOfDecimal : Decimal → Except Fault Binary64
  | .nan _ signaling _ => if signaling then .error (.value .signalingNaN) else .ok .nan
  | .infinity negative => .ok (.infinity negative)
  | .finite negative coefficient exponent =>
    .ok (Binary64.ofScientific negative coefficient exponent)

/-- A number as a binary64 number, and nothing for other values. -/
def float? : Value → Option (Except Fault Binary64)
  | .float x => some (.ok x)
  | .decimal d => some (floatOfDecimal d)
  | .fraction q => some (Value.floatOfFraction q)
  | value => value.integer?.map Value.floatOfInt

def real (value : Value) : Except Fault Binary64 :=
  match float? value with
  | some outcome => outcome
  | none => .error (.mismatch (.notReal value.typeName))

def integer (value : Value) : Except Fault Int :=
  match value.integer? with
  | some n => .ok n
  | none => .error (.mismatch (.notAnInteger value.typeName))

/-- The values of an argument that has to hold several. -/
def elements (value : Value) : Except Fault (List Value) :=
  match value with
  | .list items | .tuple items => .ok items
  | .text s => .ok (s.toList.map fun c => .text c.toString)
  | .mapping entries => .ok (entries.map (·.1))
  | other => .error (.mismatch (.notIterable other.typeName))

/-- The fault of a call with the wrong number of arguments. -/
def wrongCount (message : String) : Except Fault α :=
  .error (.mismatch (.argumentCount message))

def counted (count : Nat) (noun : String) : String :=
  toString count ++ " " ++ noun ++ (if count = 1 then "" else "s")

/-- A function of one argument, called as `name` in messages. -/
def unary (name shown : String) (f : Value → Except Fault Value) : Primitive where
  name := name
  signature := some (.fixed 1)
  apply
    | [x] => f x
    | arguments =>
      wrongCount (shown ++ "() takes exactly one argument (" ++ toString arguments.length ++
        " given)")

def binary (name : String) (f : Value → Value → Except Fault Value) : Primitive where
  name := name
  signature := some (.fixed 2)
  apply
    | [x, y] => f x y
    | arguments =>
      wrongCount (name ++ " expected 2 arguments, got " ++ toString arguments.length)

end Primitive

end Formula
