import Formula.Json.Printer

/-! Errors of expressions. Every error has a cause; its message, its kind, its place in the source
and its details are functions of the cause. Errors of compilation have a place, errors of binding
and of evaluation name the symbol they are about. -/
namespace Formula

/-- A place in a source: a position counted from one, and the name of the source. -/
structure SourceLocation where
  position : Int
  source : String
  deriving DecidableEq

def inlineSource : String :=
  "<expr>"

def SourceLocation.text (location : SourceLocation) : String :=
  location.source ++ ":" ++ toString location.position

def SourceLocation.toJson (location : SourceLocation) : Json :=
  .object [("source", .text location.source), ("position", .int location.position)]

/-- What an error tells as data: its kind, its message, its place in the source and its details. -/
structure Payload where
  kind : String
  message : String
  location : Option SourceLocation
  details : List (String × Json)

/-- An error as a JSON object: its kind and message, its location if it has one, its details if
there are any. -/
def Payload.toJson (payload : Payload) : Json :=
  .object <|
    [("kind", .text payload.kind), ("message", .text payload.message)] ++
    (match payload.location with
      | some location => [("location", location.toJson)]
      | none => []) ++
    (if payload.details.isEmpty then [] else [("details", .object payload.details)])

def signatureText (name : String) (arity : Int) : String :=
  name ++ "/" ++ toString arity

inductive ExpressionError where
  | compilation (message : String) (location : Option SourceLocation)
    (details : List (String × Json))
  | malformed (message : String) (location : Option SourceLocation)
    (details : List (String × Json))
  | endOfInput (location : Option SourceLocation)
  | undefinedVariable (name : String)
  | undefinedFunction (name : String) (arity : Int)
  | arityMismatch (name : String) (arity : Int) (callback : String)
  | uninitializedVariable (name : String)
  | uninitializedFunction (name : String) (arity : Int)
  | unboundVariable (name : String)
  | unboundFunction (name : String) (arity : Int)
  | divisionByZero

namespace ExpressionError

/-- The kind by which reports classify an error. -/
def kind : ExpressionError → String
  | compilation .. | malformed .. | endOfInput .. => "syntax_error"
  | undefinedVariable .. => "undefined_variable"
  | undefinedFunction .. => "undefined_function"
  | arityMismatch .. => "arity_mismatch"
  | uninitializedVariable .. => "uninitialized_variable"
  | uninitializedFunction .. => "uninitialized_function"
  | unboundVariable .. => "unbound_variable"
  | unboundFunction .. => "unbound_function"
  | divisionByZero => "division_by_zero"

def message : ExpressionError → String
  | compilation message _ _ | malformed message _ _ => message
  | endOfInput _ => "unexpected end of expression"
  | undefinedVariable name => "undefined variable (" ++ name ++ ")"
  | undefinedFunction name arity => "undefined function (" ++ signatureText name arity ++ ")"
  | arityMismatch name arity callback =>
    "invalid function type for " ++ signatureText name arity ++ " (" ++ callback ++ ")"
  | uninitializedVariable name => "uninitialized variable (" ++ name ++ ")"
  | uninitializedFunction name arity =>
    "uninitialized function (" ++ signatureText name arity ++ ")"
  | unboundVariable name => "unbound variable (" ++ name ++ ")"
  | unboundFunction name arity => "unbound function (" ++ signatureText name arity ++ ")"
  | divisionByZero => "division by zero"

def location : ExpressionError → Option SourceLocation
  | compilation _ location _ | malformed _ location _ | endOfInput location => location
  | _ => none

def variableDetails (name : String) : List (String × Json) :=
  [("name", .text name)]

def functionDetails (name : String) (arity : Int) : List (String × Json) :=
  [("name", .text name), ("arity", .int arity)]

def details : ExpressionError → List (String × Json)
  | compilation _ _ details | malformed _ _ details => details
  | endOfInput _ | divisionByZero => []
  | undefinedVariable name | uninitializedVariable name | unboundVariable name =>
    variableDetails name
  | undefinedFunction name arity | arityMismatch name arity _ | uninitializedFunction name arity
  | unboundFunction name arity => functionDetails name arity

def position (error : ExpressionError) : Option Int :=
  error.location.map (·.position)

/-- The integer in the text of an error, if there is one: its position, or the number of arguments
that it is about. -/
def integer? : ExpressionError → Option Int
  | undefinedFunction _ arity | arityMismatch _ arity _ | uninitializedFunction _ arity
  | unboundFunction _ arity => some arity
  | error => error.position

/-- The message, followed by the position if there is one. -/
def text (error : ExpressionError) : String :=
  match error.position with
  | some position => error.message ++ " (" ++ toString position ++ ")"
  | none => error.message

/-- What an error tells as data. -/
def payload (error : ExpressionError) : Payload :=
  ⟨error.kind, error.message, error.location, error.details⟩

def toJson (error : ExpressionError) : Json :=
  error.payload.toJson

/-- The indentation of the JSON text of an error where none is asked for. -/
def defaultLayout : Json.Layout :=
  .blanks 2

end ExpressionError

end Formula
