import Formula.Config.Basic

/-! What is logged. An event tells what happened; its level, the part of the program it comes from
and its message are functions of the event. A computation may log events and may fail; the events
logged before a failure remain. -/
namespace Formula

inductive Level where
  | debug
  | warning
  deriving DecidableEq

def Level.name : Level → String
  | debug => "DEBUG"
  | warning => "WARNING"

inductive Event where
  | running (command : String) (config : Config)
  | compiling (source : String)
  | compiled (source : String) (variableCount functionCount : Nat)
  | boundVariable (name quoted : String)
  | boundFunction (name : String) (arity : Nat) (shown : String)
  | validated (source : String)
  | configLoaded (path : String)
  | configUnreadable (path reason : String)
  | configMalformed (path reason : String)
  | numberKindUnknown (quoted : String)
  | logLevelUnknown (quoted kept : String)

namespace Event

def level : Event → Level
  | running .. | compiling _ | compiled .. | boundVariable .. | boundFunction .. | validated _
  | configLoaded _ => .debug
  | configUnreadable .. | configMalformed .. | numberKindUnknown _ | logLevelUnknown .. => .warning

/-- The part of the program that an event comes from. -/
def origin : Event → String
  | running .. => "exprtree.cli"
  | compiling _ | compiled .. => "exprtree.parser"
  | boundVariable .. | boundFunction .. | validated _ => "exprtree.expression"
  | configLoaded _ | configUnreadable .. | configMalformed .. | numberKindUnknown _
  | logLevelUnknown .. => "exprtree.config"

def configText (config : Config) : String :=
  "ExprConfig(number_type=" ++ Text.quoted config.numberKind.name ++ ", check_division=" ++
    (if config.checkDivision then "True" else "False") ++ ", log_level=" ++
    Text.quoted config.logLevel ++ ", output_format=" ++ Text.quoted config.outputFormat ++ ")"

def message : Event → String
  | running command config => "Running " ++ command ++ " with " ++ configText config
  | compiling source => "Compiling " ++ Text.quoted source
  | compiled source variableCount functionCount =>
    "Compiled " ++ Text.quoted source ++ ": " ++ toString variableCount ++ " variable(s), " ++
      toString functionCount ++ " function(s)"
  | boundVariable name quoted => "Bound variable " ++ name ++ " = " ++ quoted
  | boundFunction name arity shown =>
    "Bound function " ++ signatureText name arity ++ " = " ++ shown
  | validated source => "Validated " ++ Text.quoted source
  | configLoaded path => "Loaded config from " ++ path
  | configUnreadable path reason => "Cannot read config " ++ path ++ ": " ++ reason
  | configMalformed path reason => "Malformed config " ++ path ++ ": " ++ reason
  | numberKindUnknown quoted =>
    "Unknown number_type " ++ quoted ++ ", using " ++ Config.standard.numberKind.name
  | logLevelUnknown quoted kept => "Unknown log_level " ++ quoted ++ ", using " ++ kept

end Event

/-- A computation that logs events and may fail. -/
abbrev Logged (α : Type) := ExceptT Fault (StateM (List Event)) α

namespace Logged

def log (event : Event) : Logged Unit :=
  modify (· ++ [event])

/-- The outcome of a computation that logs nothing. -/
def ofExcept (outcome : Except Fault α) : Logged α :=
  ExceptT.mk (pure outcome)

/-- The outcome and the events, the first one first. -/
def outcome (computation : Logged α) : Except Fault α × List Event :=
  computation.run.run []

end Logged

end Formula
