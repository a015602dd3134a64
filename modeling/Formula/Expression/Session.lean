import Formula.Callback.Signature
import Formula.Expression.Outline
import Formula.Expression.Reading
import Formula.Expression.Symbols
import Formula.Value.Division

/-! Expressions in use. Compiling gives a tree with its symbol table. A session adds bindings: a
value for each variable slot and a callback for each function slot. Binding and validating either
fail or give the next session; evaluating runs callbacks, which may themselves go on with the
session, and so it gives the session it ends in even when it fails.

What callbacks are is left open. An interface says of every callback which signature it has and how
messages show it, and a host says beside what a call does; callbacks may keep a state of type `σ`
of their own. -/
namespace Formula

/-- A tree with its symbol table, and the source it was read from. -/
structure Compiled where
  source : String
  root : Node
  context : Context

/-- Compiles a source of the given name, whose numerals are of the given kind. -/
def Compiled.compile (kind : NumberKind) (source name : String) :
    Except ExpressionError Compiled :=
  match Term.read kind.read? source with
  | .error refusal => .error (refusal.toError name)
  | .ok term =>
    let (root, context) := Context.empty.resolve term
    .ok ⟨source, root, context⟩

/-- An expression in use, with callbacks of type `κ` and their state. -/
structure Session (κ σ : Type) where
  source : String
  root : Node
  context : Context
  values : Nat → Option Value
  callbacks : Nat → Option κ
  validated : Bool
  policy : DivisionPolicy
  state : σ

/-- A computation that goes from session to session and may fail on the way. -/
abbrev Run (κ σ α : Type) := ExceptT Fault (StateM (Session κ σ)) α

/-- What binding has to know of callbacks. A callback without signature can be called with any
number of arguments, as far as is known before the call. Showing a callback in a message may fail:
a callback tells itself what it is. -/
structure Interface (κ : Type) where
  signature : κ → Option Signature
  shown : κ → Except Fault String

structure Host (κ σ : Type) extends Interface κ where
  call : κ → List Value → Run κ σ Value

/-- What is bound to a function: a callback, or by mistake another value. -/
inductive Binding (κ : Type) where
  | callback (callback : κ)
  | value (value : Value)

def update (f : Nat → α) (place : Nat) (value : α) : Nat → α :=
  fun n => if n = place then value else f n

namespace Session

/-- The session of a compiled expression in which nothing is bound. -/
def start (compiled : Compiled) (policy : DivisionPolicy) (state : σ) : Session κ σ :=
  ⟨compiled.source, compiled.root, compiled.context, fun _ => none, fun _ => none, false, policy,
    state⟩

/-- The session with a value in a slot; no value counts as none. -/
def setValue (s : Session κ σ) (slot : VariableSlot) (value : Value) : Session κ σ :=
  { s with values := update s.values slot.id (match value with | .none => none | v => some v) }

def setCallback (s : Session κ σ) (slot : FunctionSlot) (callback : Option κ) : Session κ σ :=
  { s with callbacks := update s.callbacks slot.id callback }

/-- Binds a variable of the expression to a number. -/
def bindVariable (s : Session κ σ) (name : String) (value : Value) :
    Except Fault (Session κ σ) :=
  match s.context.lookupVariable name with
  | none => .error (.expression (.undefinedVariable name))
  | some slot =>
    if value.isNumber then .ok (s.setValue slot value)
    else do
      let quoted ← withinDigits value.quoted?
      .error (.mismatch (.variableValue name quoted))

/-- The callback can be called with `arity` arguments, as far as is known. -/
def accepts (interface : Interface κ) (callback : κ) (arity : Nat) : Bool :=
  match interface.signature callback with
  | some signature => signature.accepts arity
  | none => true

/-- The slot of a function, if the arity is that of a slot. -/
def functionSlot? (s : Session κ σ) (name : String) (arity : Int) : Option FunctionSlot :=
  if arity < 0 then none else s.context.lookupFunction name arity.toNat

/-- The fault of binding a callback that cannot be called with as many arguments. The callback is
shown in the error, so what showing it fails with takes the place of the error. -/
def arityFault (interface : Interface κ) (name : String) (arity : Int) (callback : κ) : Fault :=
  match interface.shown callback with
  | .ok shown => .expression (.arityMismatch name arity shown)
  | .error fault => fault

/-- Binds a function of the expression with the given arity to a callback. The arity of a function
of the expression counts arguments in the source; any other one that is asked for is an integer of
any size, which the error may be unable to tell. -/
def bindFunction (interface : Interface κ) (s : Session κ σ) (name : String) (arity : Int)
    (binding : Binding κ) : Except Fault (Session κ σ) :=
  match s.functionSlot? name arity with
  | none => .error (.ofError (.undefinedFunction name arity))
  | some slot =>
    match binding with
    | .value value => do
      let quoted ← withinDigits value.quoted?
      .error (.mismatch (.functionValue name arity quoted))
    | .callback callback =>
      if accepts interface callback slot.arity then .ok (s.setCallback slot (some callback))
      else .error (arityFault interface name arity callback)

/-- The number of positional parameters of a callback; one without signature counts as having
none. -/
def positionalCount (interface : Interface κ) (callback : κ) : Nat :=
  match interface.signature callback with
  | some signature => signature.positional
  | none => 0

/-- Binds a name: a callback to the function with as many arguments as the callback has positional
parameters, any other value to the variable. -/
def bind (interface : Interface κ) (s : Session κ σ) (name : String) (binding : Binding κ) :
    Except Fault (Session κ σ) :=
  match binding with
  | .value value => s.bindVariable name value
  | .callback callback =>
    s.bindFunction interface name (positionalCount interface callback) binding

def unboundVariable? (s : Session κ σ) : Option VariableSlot :=
  s.context.variables.find? fun slot => (s.values slot.id).isNone

/-- The first function slot without a callback. -/
def unboundFunction? (s : Session κ σ) : Option FunctionSlot :=
  s.context.functions.find? fun slot => (s.callbacks slot.id).isNone

/-- Checks that every symbol is bound. A session that passed once is not checked again. -/
def validate (s : Session κ σ) : Except Fault (Session κ σ) :=
  if s.validated then .ok s
  else
    match s.unboundVariable?, s.unboundFunction? with
    | some slot, _ => .error (.expression (.uninitializedVariable slot.name))
    | none, some slot => .error (.expression (.uninitializedFunction slot.name slot.arity))
    | none, none => .ok { s with validated := true }

end Session

namespace Node

/-- The outcome of a computation that does not concern the session. -/
def pureRun (outcome : Except Fault α) : Run κ σ α :=
  ExceptT.mk (pure outcome)

mutual

/-- The value of a node. Operands are evaluated from left to right; a call needs its callback
before its arguments are evaluated, and then calls the one that is bound after that. -/
def evaluate (host : Host κ σ) (policy : DivisionPolicy) : Node → Run κ σ Value
  | .literal value => pure value
  | .negation operand => do
    let value ← evaluate host policy operand
    pureRun value.negate
  | .binary op left right => do
    let left ← evaluate host policy left
    let right ← evaluate host policy right
    pureRun (Value.combine policy op left right)
  | .var slot => do
    match (← get).values slot.id with
    | some value => pure value
    | none => throw (.expression (.unboundVariable slot.name))
  | .call slot arguments => do
    if ((← get).callbacks slot.id).isNone then
      throw (.expression (.unboundFunction slot.name slot.arity))
    let values ← evaluateAll host policy arguments
    match (← get).callbacks slot.id with
    | some callback => host.call callback values
    | none => throw (.mismatch (.notCallable "NoneType"))
  | .foreign value => do
    let quoted ← pureRun (withinDigits value.quoted?)
    throw (.mismatch (.notEvaluable quoted))

/-- The values of several nodes, from left to right. -/
def evaluateAll (host : Host κ σ) (policy : DivisionPolicy) : List Node → Run κ σ (List Value)
  | [] => pure []
  | node :: nodes => do
    let value ← evaluate host policy node
    let values ← evaluateAll host policy nodes
    pure (value :: values)

end

end Node

namespace Session

/-- Evaluates the expression without checking that its symbols are bound. -/
def evaluateRoot (host : Host κ σ) (policy : DivisionPolicy) (s : Session κ σ) :
    Except Fault Value × Session κ σ :=
  (Node.evaluate host policy s.root).run s

/-- Evaluates the expression after validating it. -/
def evaluate (host : Host κ σ) (s : Session κ σ) : Except Fault Value × Session κ σ :=
  match s.validate with
  | .error fault => (.error fault, s)
  | .ok s => s.evaluateRoot host s.policy

def describe (s : Session κ σ) : Except Fault String :=
  s.root.outline

def shown (s : Session κ σ) : String :=
  "Expression(" ++ Text.quoted s.source ++ ")"

end Session

end Formula
