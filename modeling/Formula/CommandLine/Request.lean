import Formula.CommandLine.Piece
import Formula.Number.Kind

/-! Requests on the command line. A command line has options for all commands, the name of a
command, and the options and the operand of that command. Reading gives the request that is made, or
tells why there is none. -/
namespace Formula.CommandLine

inductive Command where
  | check
  | tree
  | eval
  deriving DecidableEq

namespace Command

def all : List Command :=
  [check, tree, eval]

def name : Command → String
  | check => "check"
  | tree => "tree"
  | eval => "eval"

def ofName? (name : String) : Option Command :=
  all.find? (·.name == name)

end Command

structure Overrides where
  configPath : Option String
  numberKind : Option NumberKind
  allowNonfinite : Bool
  json : Bool
  logLevel : Option String
  deriving DecidableEq

structure Particulars where
  file : Option String
  assignments : List String
  math : Bool
  deriving DecidableEq

structure Request where
  overrides : Overrides
  command : Command
  expression : String
  particulars : Particulars
  deriving DecidableEq

/-- Why there is no request, and which command's arguments show it. -/
inductive Halt where
  | help (command : Option Command)
  | version
  | noCommand
  | misuse (command : Option Command) (cause : Misuse)
  deriving DecidableEq

/-- The levels of logging that can be asked for. -/
def logLevelChoices : List String :=
  ["DEBUG", "INFO", "WARNING", "ERROR"]

namespace Overrides

def none : Overrides :=
  ⟨.none, .none, false, false, .none⟩

def forms : List (Form Overrides) := [
  .help,
  .version,
  .setting ["--config"] fun path o => { o with configPath := some path },
  .choice ["--number-type"] (NumberKind.all.map (·.name)) fun name o =>
    { o with numberKind := NumberKind.ofName? name },
  .flag ["--allow-nonfinite"] fun o => { o with allowNonfinite := true },
  .flag ["--json"] fun o => { o with json := true },
  .choice ["--log-level"] logLevelChoices fun level o => { o with logLevel := some level }]

end Overrides

namespace Particulars

def none : Particulars :=
  ⟨.none, [], false⟩

def forms : Command → List (Form Particulars)
  | .check | .tree => [.help, file]
  | .eval => [.help, file, assignment, math]
where
  file : Form Particulars :=
    .setting ["-f", "--file"] fun path p => { p with file := some path }
  assignment : Form Particulars :=
    .setting ["-s", "--set"] fun text p => { p with assignments := p.assignments ++ [text] }
  math : Form Particulars :=
    .flag ["--math"] fun p => { p with math := true }

end Particulars

/-- How far arguments have been read: the settings, the operand if it has been met, and the
arguments that are not understood. -/
structure Progress (α : Type) where
  settings : α
  operand : Option String
  unknown : List String

namespace Progress

def start (settings : α) : Progress α :=
  ⟨settings, none, []⟩

def skip (progress : Progress α) (text : String) : Progress α :=
  { progress with unknown := progress.unknown ++ [text] }

/-- Takes an option, and tells whether the next argument is used up as its value. -/
def takeOption (forms : List (Form α)) (progress : Progress α) (form : Form α)
    (spelling : Spelling) (next : Option String) : Except Stop (Progress α × Bool) := do
  let demand ← (Demand.ofSpelling forms next form spelling).mapError .misuse
  let settings ← demand.apply progress.settings
  .ok (⟨settings, progress.operand, progress.unknown ++ demand.unknown⟩, demand.usesNext)

end Progress

/-- Reads the options in front of a command, the first one perhaps being used up already, and gives
the arguments from the command on. A divider counts as the command if operands follow it. -/
def readFront (forms : List (Form α)) (progress : Progress α) (used : Bool) :
    List (Piece α) → Except Stop (Progress α × List String)
  | [] => .ok (progress, [])
  | piece :: pieces =>
    if used then readFront forms progress false pieces
    else
      match piece with
      | .operand text => .ok (progress, text :: pieces.map (·.text))
      | .divider =>
        if pieces.isEmpty then .ok (progress.skip dividerText, [])
        else .ok (progress, dividerText :: pieces.map (·.text))
      | .unknown text => readFront forms (progress.skip text) false pieces
      | .option _ form spelling => do
        let (progress, used) ← progress.takeOption forms form spelling (Piece.operand? pieces)
        readFront forms progress used pieces

def beginsWithDivider : List (Piece α) → Bool
  | .divider :: _ => true
  | _ => false

/-- Reads the options of a command and its operand, the first argument perhaps being used up
already. A divider next to the operand belongs to it; a divider alone stands for an empty operand.
-/
def readRest (forms : List (Form α)) (progress : Progress α) (used : Bool) :
    List (Piece α) → Except Stop (Progress α)
  | [] => .ok progress
  | piece :: pieces =>
    if used then readRest forms progress false pieces
    else
      match piece with
      | .operand text =>
        match progress.operand with
        | some _ => readRest forms (progress.skip text) false pieces
        | none =>
          readRest forms { progress with operand := some text } (beginsWithDivider pieces) pieces
      | .divider =>
        match progress.operand with
        | some _ => readRest forms (progress.skip dividerText) false pieces
        | none =>
          let text := Piece.operand? pieces
          readRest forms { progress with operand := some (text.getD "") } text.isSome pieces
      | .unknown text => readRest forms (progress.skip text) false pieces
      | .option _ form spelling => do
        let (progress, used) ← progress.takeOption forms form spelling (Piece.operand? pieces)
        readRest forms progress used pieces

/-- What the arguments are, where a misuse is a reason to stop. -/
def piecesOf (forms : List (Form α)) (arguments : List String) :
    Except Stop (List (Piece α)) :=
  (Piece.ofArguments forms arguments).mapError .misuse

/-- The halt at a stop in the arguments of a command, or in front of one. -/
def Stop.halt (command : Option Command) : Stop → Halt
  | help => .help command
  | version => .version
  | misuse cause => .misuse command cause

def readOverrides (arguments : List String) :
    Except Halt (Progress Overrides × List String) :=
  (do
    let pieces ← piecesOf Overrides.forms arguments
    readFront Overrides.forms (.start .none) false pieces).mapError (Stop.halt none)

/-- Reads the options and the operand of a command. -/
def readParticulars (command : Command) (arguments : List String) :
    Except Halt (Progress Particulars) :=
  (do
    let pieces ← piecesOf (Particulars.forms command) arguments
    readRest (Particulars.forms command) (.start .none) false pieces).mapError
      (Stop.halt (some command))

/-- There must be no argument that is not understood. -/
def requireUnderstood (unknown : List String) : Except Halt Unit :=
  if unknown.isEmpty then .ok () else .error (.misuse none (.unrecognized unknown))

def Request.read (arguments : List String) : Except Halt Request := do
  let (front, rest) ← readOverrides arguments
  match rest with
  | [] =>
    requireUnderstood front.unknown
    .error .noCommand
  | name :: rest =>
    match Command.ofName? name with
    | none =>
      .error (.misuse none (.invalidChoice "command" name (Command.all.map (·.name))))
    | some command => do
      let progress ← readParticulars command rest
      requireUnderstood (front.unknown ++ progress.unknown)
      .ok ⟨front.settings, command, progress.operand.getD "", progress.settings⟩

end Formula.CommandLine
