import Formula.Number.Binary64.Reader
import Formula.Number.Decimal.Reader
import Formula.Number.Fraction
import Formula.Number.Kind
import Formula.Value.Basic

/-! Reading numbers as values. The number kind in force decides how numerals are read, in
expressions as well as in the values given for variables. -/
namespace Formula

namespace NumberKind

def read? (kind : NumberKind) (text : String) : Option Value :=
  match kind with
  | decimal => (Decimal.read? text).map .decimal
  | float => (Binary64.read? text).map .float
  | fraction => (Fraction.read? text).map .fraction
  | int => (readInt? text).map .int

end NumberKind

end Formula
