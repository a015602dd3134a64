import Formula.Callback.Collective
import Formula.Callback.Integral

/-! The mathematical primitives and constants by name. -/
namespace Formula

namespace Primitive

def mathematics : List Primitive :=
  realFunctions ++ binaryFunctions ++ integralFunctions ++ collectiveFunctions

def mathematical? (name : String) : Option Primitive :=
  mathematics.find? (·.name == name)

end Primitive

def mathematicalConstants : List (String × Value) :=
  [("pi", .float .pi), ("e", .float .exponentialBase), ("tau", .float .tau)]

end Formula
