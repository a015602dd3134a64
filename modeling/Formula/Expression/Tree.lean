import Formula.Value.Arithmetic

/-! Expression trees. The leaves are literals and symbols; what a symbol is depends on the stage: a
term, as it is read, refers to variables and functions by name, and a node, as it is evaluated,
by slots that hold their bindings. -/
namespace Formula

/-- A tree with variables of type `ν` and functions of type `φ`. The last form stands for a value
where a tree should be; it cannot be evaluated. -/
inductive Tree (ν φ : Type) where
  | literal (value : Value)
  | negation (operand : Tree ν φ)
  | binary (op : BinaryOperator) (left right : Tree ν φ)
  | var (symbol : ν)
  | call (symbol : φ) (arguments : List (Tree ν φ))
  | foreign (value : Value)
  deriving Inhabited

abbrev Term := Tree String String

/-- The place where the value of a variable is kept. Slots are told apart by their numbers. -/
structure VariableSlot where
  id : Nat
  name : String
  deriving DecidableEq, Inhabited

/-- The place where the callback of a function is kept, for calls with `arity` arguments. -/
structure FunctionSlot where
  id : Nat
  name : String
  arity : Nat
  deriving DecidableEq, Inhabited

/-- A tree as it is evaluated: symbols are slots. -/
abbrev Node := Tree VariableSlot FunctionSlot

namespace Tree

/-- The subtrees of a tree, from left to right. -/
def children : Tree ν φ → List (Tree ν φ)
  | negation operand => [operand]
  | binary _ left right => [left, right]
  | call _ arguments => arguments
  | literal _ | var _ | foreign _ => []

mutual

def size : Tree ν φ → Nat
  | negation operand => operand.size + 1
  | binary _ left right => left.size + right.size + 1
  | call _ arguments => sizeAll arguments + 1
  | literal _ | var _ | foreign _ => 1

def sizeAll : List (Tree ν φ) → Nat
  | [] => 0
  | tree :: trees => tree.size + sizeAll trees

end

end Tree

end Formula
