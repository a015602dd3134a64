/-! Number kinds. Four kinds of numbers have names by which settings refer to them. -/
namespace Formula

inductive NumberKind where
  | decimal
  | float
  | fraction
  | int
  deriving DecidableEq

namespace NumberKind

/-- All kinds, in the order in which they are listed. -/
def all : List NumberKind :=
  [decimal, float, fraction, int]

def name : NumberKind → String
  | decimal => "decimal"
  | float => "float"
  | fraction => "fraction"
  | int => "int"

def ofName? (name : String) : Option NumberKind :=
  all.find? (·.name == name)

theorem ofName?_name (kind : NumberKind) : ofName? kind.name = some kind := by
  cases kind <;> decide

end NumberKind

end Formula
