import Formula.Callback.Primitive
import Formula.Expression.Session

/-! Callbacks described by data. A script has a signature and an action; actions compute, keep a
count, raise faults, or go on with the session that runs them, even by giving a symbol of the
running expression another binding. Every call of a script is recorded with its arguments. -/
namespace Formula

mutual

inductive Blueprint where
  | primitive (function : Primitive)
  | script (tag : String) (signature : Signature) (action : Action)

/-- What a script does with the values of its parameters. -/
inductive Action where
  | fold (op : BinaryOperator)
  | negation
  | count
  | first
  | last
  | constant (value : Value)
  | counter
  | raise (fault : Fault)
  | bindVariable (name : String)
  | bindFunction (name : String) (arity : Int) (binding : Sum Blueprint Value)
  | describe

end

instance : Inhabited Action :=
  ⟨.describe⟩

instance : Inhabited Blueprint :=
  ⟨.script "" (.fixed 0) .describe⟩

/-- A callback: a blueprint, with a number of its own that tells its count from others. -/
structure Callback where
  id : Nat
  blueprint : Blueprint

/-- What the callbacks of a session have done: the recorded calls, the last one first, the counts
of callbacks, and the number for the next callback made. -/
structure Record where
  calls : List (String × List Value)
  counts : Nat → Nat
  next : Nat

namespace Record

def empty : Record :=
  ⟨[], fun _ => 0, 0⟩

/-- A new callback, and the record in which its number is taken. -/
def make (record : Record) (blueprint : Blueprint) : Callback × Record :=
  (⟨record.next, blueprint⟩, { record with next := record.next + 1 })

end Record

namespace Callback

/-- A session whose callbacks are blueprints at work. -/
abbrev Session := Formula.Session Callback Record

def signature (callback : Callback) : Option Signature :=
  match callback.blueprint with
  | .primitive function => function.signature
  | .script _ signature _ => some signature

/-- The text that stands for a callback in messages. -/
def shown (callback : Callback) : String :=
  match callback.blueprint with
  | .primitive function => "<" ++ function.name ++ ">"
  | .script tag _ _ => "<" ++ tag ++ ">"

/-- The text of a primitive in messages where callbacks show what they are. -/
def describedAsBuiltin (callback : Callback) : String :=
  match callback.blueprint with
  | .primitive function => "<built-in function " ++ function.name ++ ">"
  | .script tag _ _ => "<" ++ tag ++ ">"

/-- The default of every parameter that has one. -/
def parameterDefault : Value :=
  .int 10

def firstValue : List Value → Except Fault Value
  | value :: _ => .ok value
  | [] => .error (.index "list")

/-- The values combined from left to right; no values give zero. -/
def foldValues (op : BinaryOperator) : List Value → Except Fault Value
  | [] => .ok (.int 0)
  | value :: values => values.foldlM (Value.apply op) value

def continueWith (outcome : Except Fault Session) : Run Callback Record Unit := do
  set (← Node.pureRun outcome)

/-- What binding has to know of callbacks, which are shown by the given texts. -/
def interface (shown : Callback → String) : Interface Callback :=
  ⟨signature, fun callback => .ok (shown callback)⟩

/-- Runs an action of a callback on the values of its parameters. -/
def act (shown : Callback → String) (callback : Callback) (values : List Value) :
    Action → Run Callback Record Value
  | .fold op => Node.pureRun (foldValues op values)
  | .negation => Node.pureRun (firstValue values >>= Value.negate)
  | .count => pure (.int values.length)
  | .first => Node.pureRun (firstValue values)
  | .last => Node.pureRun (firstValue values.reverse)
  | .constant value => pure value
  | .counter => do
    let s ← get
    let count := s.state.counts callback.id + 1
    set { s with state := { s.state with counts := update s.state.counts callback.id count } }
    pure (.int count)
  | .raise fault => throw fault
  | .bindVariable name => do
    let value ← Node.pureRun (firstValue values)
    let s ← get
    continueWith (s.bindVariable name value)
    pure value
  | .bindFunction name arity (.inl blueprint) => do
    let s ← get
    let (made, record) := s.state.make blueprint
    let s := { s with state := record }
    continueWith (s.bindFunction (interface shown) name arity (.callback made))
    pure (values.head?.getD (.int 0))
  | .bindFunction name arity (.inr value) => do
    let s ← get
    continueWith (s.bindFunction (interface shown) name arity (.value value))
    pure (values.head?.getD (.int 0))
  | .describe => do
    let s ← get
    let outline ← Node.pureRun s.describe
    pure (.text outline)

def recordCall (tag : String) (values : List Value) : Run Callback Record Unit :=
  modify fun s => { s with state := { s.state with calls := (tag, values) :: s.state.calls } }

def call (shown : Callback → String) (callback : Callback) (arguments : List Value) :
    Run Callback Record Value :=
  match callback.blueprint with
  | .primitive function => Node.pureRun (function.apply arguments)
  | .script tag signature action =>
    match signature.bind? parameterDefault arguments with
    | none =>
      throw (.mismatch (.argumentCount
        (tag ++ "() cannot be called with " ++ Primitive.counted arguments.length "argument")))
    | some values => do
      recordCall tag values
      act shown callback values action

/-- The host of sessions whose callbacks are shown by the given texts. -/
def host (shown : Callback → String) : Host Callback Record :=
  ⟨interface shown, call shown⟩

end Callback

end Formula
