import Formula.Expression.Session
import Formula.Fault
import Formula.Text.Lines

/-! What comes of a request, and how it is said. An outcome does not depend on the form of the
output; its answer does: a text for people or a JSON document. Only the texts of an answer can fail,
where a number has too many digits. -/
namespace Formula.CommandLine

inductive Misassignment where
  | unseparated (text : String)
  | invalidValue (name text : String)
  deriving DecidableEq

def Misassignment.message : Misassignment → String
  | unseparated text => "expected NAME=VALUE, got '" ++ text ++ "'"
  | invalidValue name text => "invalid value for '" ++ name ++ "': '" ++ text ++ "'"

inductive Outcome where
  | missingFile (path : String)
  | symbols (names : List String) (functions : List (String × Nat))
  | outline (text : String)
  | value (result : Value)
  | expressionError (error : ExpressionError)
  | callbackFailure (fault : Fault)
  | misassignment (cause : Misassignment)

/-- What a program says in the end: its status and what it writes to its output and as complaints.
-/
structure Answer where
  status : Nat
  output : String
  complaint : String
  deriving DecidableEq

inductive Format where
  | text
  | json
  deriving DecidableEq

/-- The name of a field for a key: a text as it is, and a number, a truth value or nothing as it is
written in JSON. Other keys have none. -/
def fieldName : Value → Except Fault String
  | .text s => .ok s
  | .float x => .ok (x.text Binary64.jsonStyle)
  | .bool b => .ok (if b then "true" else "false")
  | .none => .ok "null"
  | .int n => withinDigits (Value.intText? n)
  | other => .error (.mismatch (.argument
      ("keys must be str, int, float, bool or None, not " ++ other.className)))

mutual

/-- A value as a JSON value; one of a type that JSON has not is shown by its text. -/
def valueJson : Value → Except Fault Json
  | .none => .ok .null
  | .bool b => .ok (.bool b)
  | .int n => (withinDigits (Value.intText? n)).map fun _ => .int n
  | .float x => .ok (.float x)
  | .text s => .ok (.text s)
  | .list items | .tuple items => (valueJsonAll items).map .array
  | .mapping entries => (entriesJson entries).map .object
  | value => (withinDigits value.text?).map .text

def valueJsonAll : List Value → Except Fault (List Json)
  | [] => .ok []
  | item :: items => do
    let first ← valueJson item
    let others ← valueJsonAll items
    .ok (first :: others)

def entriesJson : List (Value × Value) → Except Fault (List (String × Json))
  | [] => .ok []
  | (key, value) :: entries => do
    let name ← fieldName key
    let content ← valueJson value
    let others ← entriesJson entries
    .ok ((name, content) :: others)

end

namespace Outcome

def isSuccess : Outcome → Bool
  | symbols .. | outline _ | value _ => true
  | missingFile _ | expressionError _ | callbackFailure _ | misassignment _ => false

def status (outcome : Outcome) : Nat :=
  if outcome.isSuccess then 0 else 1

def callbackMessage (fault : Fault) : String :=
  "callback failed: " ++ fault.message

def callbackJson (fault : Fault) : Json :=
  .object [("kind", .text "callback_error"), ("message", .text (callbackMessage fault)),
    ("details", .object [("type", .text fault.typeName)])]

def symbolsJson (names : List String) (functions : List (String × Nat)) : Json :=
  .object [("status", .text "ok"), ("variables", .array (names.map .text)),
    ("functions", .array (functions.map fun (name, arity) =>
      .object [("name", .text name), ("arity", .int arity)]))]

/-- The lines of a list of symbols; a kind of which there are none has no line. -/
def symbolLines (names : List String) (functions : List (String × Nat)) : List String :=
  ["ok"] ++
    (if names.isEmpty then [] else ["variables: " ++ ", ".intercalate names]) ++
    (if functions.isEmpty then []
      else ["functions: " ++ ", ".intercalate (functions.map fun (name, arity) =>
        signatureText name arity)])

def linesOf (text : String) : List String :=
  (Text.lines text.toList).map String.ofList

def withoutLineEnd (text : String) : String :=
  String.ofList (text.toList.reverse.dropWhile (· == '\n')).reverse

def jsonText (layout : Json.Layout) (value : Json) : Except Fault String :=
  withinDigits (value.render? layout)

/-- The JSON value of an outcome that JSON output shows. -/
def json? : Outcome → Except Fault (Option Json)
  | symbols names functions => .ok (some (symbolsJson names functions))
  | outline text => .ok (some (.object [("tree", .array ((linesOf text).map .text))]))
  | value result => do
    let content ← valueJson result
    .ok (some (.object [("result", content)]))
  | expressionError error => .ok (some error.toJson)
  | callbackFailure fault => .ok (some (callbackJson fault))
  | missingFile _ | misassignment _ => .ok none

/-- The text of an outcome, which a request that is met has as output and any other as complaint. -/
def text : Outcome → Except Fault String
  | missingFile path => .ok ("File not found: " ++ path)
  | symbols names functions => .ok ("\n".intercalate (symbolLines names functions))
  | outline text => .ok (withoutLineEnd text)
  | value result => withinDigits result.text?
  | expressionError error => .ok ("error: " ++ error.text)
  | callbackFailure fault => .ok ("error: " ++ callbackMessage fault)
  | misassignment cause => .ok ("error: " ++ cause.message)

def printed (outcome : Outcome) (text : String) : Answer :=
  ⟨outcome.status, text ++ "\n", ""⟩

def complained (outcome : Outcome) (text : String) : Answer :=
  ⟨outcome.status, "", text ++ "\n"⟩

/-- The answer in the given form. A missing file is always told as a JSON object on one line, and a
wrong assignment always as a text. -/
def answer (format : Format) (outcome : Outcome) : Except Fault Answer := do
  let text ← outcome.text
  match outcome, format with
  | missingFile _, _ =>
    let document ← jsonText .oneLine (.object [("error", .text text)])
    .ok (outcome.printed document)
  | _, .text => .ok (if outcome.isSuccess then outcome.printed text else outcome.complained text)
  | _, .json =>
    match ← outcome.json? with
    | some content => do
      let document ← jsonText (.blanks 2) content
      .ok (outcome.printed document)
    | none => .ok (outcome.complained text)

end Outcome

end Formula.CommandLine
