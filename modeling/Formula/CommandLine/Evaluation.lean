import Formula.Callback.Mathematics
import Formula.Callback.Script
import Formula.CommandLine.Outcome
import Formula.CommandLine.Request
import Formula.Config.Basic
import Formula.Files.Contents
import Formula.Log
import Formula.Value.Literal

/-! What a request comes to. Its source is compiled; then its symbols are listed, or its tree is
outlined, or it is evaluated: assignments bind variables from left to right, the mathematical
functions and constants are bound by name if that is asked for, and the value is computed. What
happens on the way is logged. -/
namespace Formula.CommandLine

inductive Source where
  | inline (text : String)
  | file (path : String) (bytes : List UInt8)

namespace Source

def name : Source → String
  | inline _ => inlineSource
  | file path _ => path

/-- The text of a source. The white space at the ends of a file does not belong to it. -/
def text : Source → Except Fault String
  | inline text => .ok text
  | file _ bytes => do
    let text ← Files.decodeText bytes
    .ok (Text.strip (String.ofList text))

end Source

def compile (config : Config) (source : Source) : Logged Compiled := do
  let text ← Logged.ofExcept source.text
  Logged.log (.compiling text)
  let compiled ← Logged.ofExcept
    ((Compiled.compile config.numberKind text source.name).mapError .expression)
  Logged.log (.compiled text compiled.context.variables.length compiled.context.functions.length)
  pure compiled

/-! ### Binding -/

def interface : Interface Callback :=
  Callback.interface Callback.describedAsBuiltin

def bindVariable (session : Callback.Session) (name : String) (value : Value) :
    Logged Callback.Session := do
  let next ← Logged.ofExcept (session.bindVariable name value)
  match value.quoted? with
  | some quoted => Logged.log (.boundVariable name quoted)
  | none => pure ()
  pure next

def bindPrimitive (session : Callback.Session) (slot : FunctionSlot) (primitive : Primitive) :
    Logged Callback.Session := do
  let (callback, record) := session.state.make (.primitive primitive)
  let session := { session with state := record }
  let next ← Logged.ofExcept
    (session.bindFunction interface slot.name slot.arity (.callback callback))
  Logged.log (.boundFunction slot.name slot.arity (Callback.describedAsBuiltin callback))
  pure next

/-- The name and the value of an assignment, which an equals sign separates. -/
def splitAssignment? (text : String) : Option (String × String) :=
  match text.toList.dropWhile (· ≠ '=') with
  | [] => none
  | _ :: value => some (String.ofList (text.toList.takeWhile (· ≠ '=')), String.ofList value)

/-- Assigns values to variables from left to right, and gives the names that are assigned. The first
wrong assignment is the last one looked at. -/
def assign (kind : NumberKind) (session : Callback.Session) (assigned : List String) :
    List String → Logged (Except Misassignment (Callback.Session × List String))
  | [] => pure (.ok (session, assigned))
  | text :: texts =>
    match splitAssignment? text with
    | none => pure (.error (.unseparated text))
    | some (name, content) =>
      match kind.read? (Text.strip content) with
      | none => pure (.error (.invalidValue name content))
      | some value => do
        let session ← bindVariable session (Text.strip name) value
        assign kind session (assigned ++ [Text.strip name]) texts

/-- Binds each given constant whose name is a variable that is not assigned. -/
def bindConstants (assigned : List String) (session : Callback.Session) :
    List (String × Value) → Logged Callback.Session
  | [] => pure session
  | (name, value) :: constants => do
    let session ←
      if (session.context.lookupVariable name).isSome && !assigned.contains name then
        bindVariable session name value
      else pure session
    bindConstants assigned session constants

/-- Binds each given function for whose name there is a mathematical primitive. -/
def bindFunctions (session : Callback.Session) : List FunctionSlot → Logged Callback.Session
  | [] => pure session
  | slot :: slots => do
    let session ← match Primitive.mathematical? slot.name with
      | some primitive => bindPrimitive session slot primitive
      | none => pure session
    bindFunctions session slots

/-- Binds the mathematical constants and functions that the expression names, but for the variables
that are assigned. -/
def bindMathematics (assigned : List String) (session : Callback.Session) :
    Logged Callback.Session := do
  let session ← bindConstants assigned session mathematicalConstants
  bindFunctions session session.context.functions

/-! ### Requests -/

/-- Validates a session and evaluates its expression. -/
def evaluate (session : Callback.Session) : Logged Value := do
  let session ← Logged.ofExcept session.validate
  Logged.log (.validated session.source)
  let host := Callback.host Callback.describedAsBuiltin
  Logged.ofExcept (session.evaluateRoot host session.policy).1

/-- The value of a source with the given bindings. -/
def evaluateSource (config : Config) (source : Source) (particulars : Particulars) :
    Logged (Except Misassignment Value) := do
  let compiled ← compile config source
  let session := Session.start compiled config.policy Record.empty
  match ← assign config.numberKind session [] particulars.assignments with
  | .error cause => pure (.error cause)
  | .ok (session, assigned) => do
    let session ← if particulars.math then bindMathematics assigned session else pure session
    let value ← evaluate session
    pure (.ok value)

/-- A computation in which an error of the expression is an outcome. -/
def reportingErrors (computation : Logged Outcome) : Logged Outcome :=
  tryCatch computation fun
    | .expression error => pure (.expressionError error)
    | fault => throw fault

/-- A computation in which an error of the expression is an outcome, and so is an inadmissible value
or a failure of arithmetic, for which callbacks are held responsible. -/
def reportingFailures (computation : Logged Outcome) : Logged Outcome :=
  tryCatch computation fun fault =>
    match fault with
    | .expression error => pure (.expressionError error)
    | fault => if fault.isComputational then pure (.callbackFailure fault) else throw fault

def perform (config : Config) (source : Source) (particulars : Particulars) :
    Command → Logged Outcome
  | .check => reportingErrors do
    let compiled ← compile config source
    pure (.symbols (compiled.context.variables.map (·.name))
      (compiled.context.functions.map fun slot => (slot.name, slot.arity)))
  | .tree => reportingErrors do
    let compiled ← compile config source
    let outline ← Logged.ofExcept compiled.root.outline
    pure (.outline outline)
  | .eval => reportingFailures do
    match ← evaluateSource config source particulars with
    | .ok value => pure (.value value)
    | .error cause => pure (.misassignment cause)

end Formula.CommandLine
