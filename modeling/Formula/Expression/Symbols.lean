import Formula.Expression.Tree

/-! The symbol table of an expression. Variables are keyed by name, functions by name and number of
arguments. A key gets its slot when it is first defined and keeps it: the number of a slot is its
place in the table, so that the slots of different keys differ. -/
namespace Formula

/-- A symbol table: the slots of variables and of functions in the order of their definition. -/
structure Context where
  «variables» : List VariableSlot
  functions : List FunctionSlot

namespace Context

def empty : Context :=
  ⟨[], []⟩

def lookupVariable (context : Context) (name : String) : Option VariableSlot :=
  context.variables.find? (·.name == name)

/-- The slot of a function with a number of arguments. -/
def lookupFunction (context : Context) (name : String) (arity : Nat) : Option FunctionSlot :=
  context.functions.find? fun slot => slot.name == name && slot.arity == arity

/-- The slot of a variable, which is new if the name is. -/
def defineVariable (context : Context) (name : String) : VariableSlot × Context :=
  match context.lookupVariable name with
  | some slot => (slot, context)
  | none =>
    let slot := ⟨context.variables.length, name⟩
    (slot, { context with «variables» := context.variables ++ [slot] })

/-- The slot of a function, which is new if the name has not been defined with that many
arguments. -/
def defineFunction (context : Context) (name : String) (arity : Nat) : FunctionSlot × Context :=
  match context.lookupFunction name arity with
  | some slot => (slot, context)
  | none =>
    let slot := ⟨context.functions.length, name, arity⟩
    (slot, { context with functions := context.functions ++ [slot] })

/-- The call of a function with the given arguments. -/
def defineCall (context : Context) (name : String) (arguments : List Node) : Node × Context :=
  let (slot, context) := context.defineFunction name arguments.length
  (.call slot arguments, context)

mutual

/-- The node of a term. Its symbols are defined from left to right, a function after its
arguments. -/
def resolve (context : Context) : Term → Node × Context
  | .literal value => (.literal value, context)
  | .negation operand =>
    let (operand, context) := context.resolve operand
    (.negation operand, context)
  | .binary op left right =>
    let (left, context) := context.resolve left
    let (right, context) := context.resolve right
    (.binary op left right, context)
  | .var name =>
    let (slot, context) := context.defineVariable name
    (.var slot, context)
  | .call name arguments =>
    let (arguments, context) := context.resolveAll arguments
    context.defineCall name arguments
  | .foreign value => (.foreign value, context)

def resolveAll (context : Context) : List Term → List Node × Context
  | [] => ([], context)
  | term :: terms =>
    let (node, context) := context.resolve term
    let (nodes, context) := context.resolveAll terms
    (node :: nodes, context)

end

end Context

end Formula
