import Formula.Fault

/-! Errors of every class as data. An error is of a class for errors with the same cause, which has
a kind, or of one of the classes from which those are derived. These have none, so that their errors
do not tell what they are about as data; nothing in this library raises them. -/
namespace Formula

/-- The classes of errors without a kind. -/
inductive BaseClass where
  | expression
  | binding
  | evaluation

def BaseClass.name : BaseClass → String
  | expression => "ExpressionError"
  | binding => "BindingError"
  | evaluation => "EvaluationError"

inductive StructuredError where
  | specific (error : ExpressionError)
  | base (family : BaseClass) (message : String) (location : Option SourceLocation)
    (details : List (String × Json))

namespace StructuredError

def kind : StructuredError → Except Fault String
  | specific error => .ok error.kind
  | base family _ _ _ => .error (.raised "AttributeError"
      [.text ("'" ++ family.name ++ "' object has no attribute 'kind'")])

def message : StructuredError → String
  | specific error => error.message
  | base _ message _ _ => message

def location : StructuredError → Option SourceLocation
  | specific error => error.location
  | base _ _ location _ => location

def details : StructuredError → List (String × Json)
  | specific error => error.details
  | base _ _ _ details => details

def payload (error : StructuredError) : Except Fault Payload := do
  let kind ← error.kind
  .ok ⟨kind, error.message, error.location, error.details⟩

/-- The JSON text of an error. -/
def jsonText (layout : Json.Layout) (error : StructuredError) : Except Fault String := do
  let payload ← error.payload
  withinDigits (payload.toJson.render? layout)

end StructuredError

end Formula
