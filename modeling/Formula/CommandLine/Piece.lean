import Formula.CommandLine.Form
import Formula.Text.Digit

/-! Pieces of a command line. An argument is an operand or an option, or the divider, behind which
all arguments are operands. An argument with a dash in front is an option, unless it reads as a
negative number or has a blank in it and is the name of none. Two dashes introduce a long name,
which may be cut short where only one name begins in that way, and a value may follow behind an
equals sign. One dash introduces a short name; behind it stands its value or, if it takes none,
another short name. -/
namespace Formula.CommandLine

/-- How an option is written: with a long name, perhaps with a value, or with a short name, with
what follows it in the same argument. -/
inductive Spelling where
  | long (value : Option String)
  | short (rest : List Char)
  deriving DecidableEq

inductive Piece (α : Type) where
  | operand (text : String)
  | divider
  | option (text : String) (form : Form α) (spelling : Spelling)
  | unknown (text : String)

/-- The argument that separates options from operands. -/
def dividerText : String :=
  "--"

namespace Piece

def text : Piece α → String
  | operand text | option text _ _ | unknown text => text
  | divider => dividerText

/-- A sequence of decimal digits that is not empty. -/
def isDigits (text : List Char) : Bool :=
  !text.isEmpty && text.all fun c => (Text.digitValue? c).isSome

/-- What stands behind the dash is a number: digits, or digits behind a point and perhaps in front
of it. A line feed may end it. -/
def isNegativeNumber (magnitude : List Char) : Bool :=
  let line := if magnitude.getLast? = some '\n' then magnitude.dropLast else magnitude
  let fraction := line.dropWhile fun c => (Text.digitValue? c).isSome
  isDigits line || match fraction with
    | '.' :: places => isDigits places
    | _ => false

/-- An argument with a dash in front that is the name of no option. -/
def unnamed (argument : String) : Piece α :=
  if isNegativeNumber (argument.toList.drop 1) || argument.toList.contains ' ' then
    operand argument
  else unknown argument

/-- The characters before the first equals sign, and those behind it if there is one. -/
def splitValue (text : List Char) : List Char × Option (List Char) :=
  (text.takeWhile (· ≠ '='), (text.dropWhile (· ≠ '=')).tail?)

def ofLong (forms : List (Form α)) (argument : String) : Except Misuse (Piece α) :=
  let (name, value) := splitValue argument.toList
  let spelling := Spelling.long (value.map String.ofList)
  match Form.named? forms (String.ofList name) with
  | some form => .ok (option argument form spelling)
  | none =>
    match Form.beginning forms (String.ofList name) with
    | [] => .ok (unnamed argument)
    | [(_, form)] => .ok (option argument form spelling)
    | several => .error (.ambiguous argument (several.map (·.1)))

/-- An argument with one dash in front, which is followed by the given characters. -/
def ofShort (forms : List (Form α)) (argument : String) (letter : Char) (rest : List Char) :
    Piece α :=
  match Form.named? forms (String.ofList ['-', letter]) with
  | some form => option argument form (.short rest)
  | none => unnamed argument

def ofArgument (forms : List (Form α)) (argument : String) : Except Misuse (Piece α) :=
  match argument.toList with
  | '-' :: '-' :: _ => ofLong forms argument
  | '-' :: letter :: rest => .ok (ofShort forms argument letter rest)
  | _ => .ok (operand argument)

def ofArguments (forms : List (Form α)) : List String → Except Misuse (List (Piece α))
  | [] => .ok []
  | argument :: arguments =>
    if argument = dividerText then .ok (divider :: arguments.map operand)
    else do
      let piece ← ofArgument forms argument
      let pieces ← ofArguments forms arguments
      .ok (piece :: pieces)

def operand? : List (Piece α) → Option String
  | operand text :: _ => some text
  | _ => none

end Piece

/-- What an argument with options asks for: the effects of its options in order, the part that is
not understood, and whether the next argument is used up as a value. -/
structure Demand (α : Type) where
  effects : List (α → Except Stop α)
  unknown : List String
  usesNext : Bool

namespace Demand

/-- An option that is not followed by anything in its argument, where the next argument is an
operand or there is none. -/
def bare (form : Form α) (next : Option String) : Except Misuse (Demand α) :=
  match form.effect, next with
  | .plain apply, _ => .ok ⟨[apply], [], false⟩
  | .valued apply, some value => .ok ⟨[apply value], [], true⟩
  | .valued _, none => .error (.missingValue form.shown)

/-- An option that is followed by a value in its argument. -/
def withValue (form : Form α) (value : String) : Except Misuse (Demand α) :=
  match form.effect with
  | .plain _ => .error (.superfluousValue form.shown value)
  | .valued apply => .ok ⟨[apply value], [], false⟩

def ofShort (forms : List (Form α)) (next : Option String) (form : Form α) :
    List Char → Except Misuse (Demand α)
  | [] => bare form next
  | '=' :: value => withValue form (String.ofList value)
  | letter :: rest =>
    match form.effect with
    | .valued _ => withValue form (String.ofList (letter :: rest))
    | .plain apply =>
      if letter = '-' then withValue form (String.ofList (letter :: rest))
      else
        match Form.named? forms (String.ofList ['-', letter]) with
        | none => .ok ⟨[apply], [String.ofList ('-' :: letter :: rest)], false⟩
        | some other => do
          let demand ← ofShort forms next other rest
          .ok { demand with effects := apply :: demand.effects }

def ofSpelling (forms : List (Form α)) (next : Option String) (form : Form α) :
    Spelling → Except Misuse (Demand α)
  | .long none => bare form next
  | .long (some value) => withValue form value
  | .short rest => ofShort forms next form rest

/-- The settings after the effects of a demand. -/
def apply (demand : Demand α) (settings : α) : Except Stop α :=
  demand.effects.foldlM (fun settings effect => effect settings) settings

end Demand

end Formula.CommandLine
