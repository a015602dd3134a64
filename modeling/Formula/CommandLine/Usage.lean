import Formula.CommandLine.Request

/-! What is said about the usage of the command line: for the whole program and for each command a
line or more that shows the forms, and a page of help. -/
namespace Formula.CommandLine

def programName : String :=
  "exprtree"

def versionText : String :=
  programName ++ " 0.1.0"

def alternatives (words : List String) : String :=
  "\x7b" ++ ",".intercalate words ++ "\x7d"

def numberKindAlternatives : String :=
  alternatives (NumberKind.all.map (·.name))

def logLevelAlternatives : String :=
  alternatives logLevelChoices

def commandAlternatives : String :=
  alternatives (Command.all.map (·.name))

def linesText (lines : List String) : String :=
  String.join (lines.map (· ++ "\n"))

/-- The program, or one of its commands, as it is called. -/
def calledAs : Option Command → String
  | none => programName
  | some command => programName ++ " " ++ command.name

/-- The lines that show the forms of the program's or a command's arguments. -/
def usageLines : Option Command → List String
  | none => [
    "usage: exprtree [-h] [--version] [--config CONFIG]",
    "                [--number-type " ++ numberKindAlternatives ++ "]",
    "                [--allow-nonfinite] [--json]",
    "                [--log-level " ++ logLevelAlternatives ++ "]",
    "                " ++ commandAlternatives ++ " ..."]
  | some .check => ["usage: exprtree check [-h] [-f FILE] [expression]"]
  | some .tree => ["usage: exprtree tree [-h] [-f FILE] [expression]"]
  | some .eval => ["usage: exprtree eval [-h] [-f FILE] [-s NAME=VALUE] [--math] [expression]"]

def programHelpLines : List String := [
  "",
  "exprtree: compile and evaluate arithmetic expressions",
  "",
  "positional arguments:",
  "  " ++ commandAlternatives ++ "     Available commands",
  "    check               Compile and list declared symbols",
  "    tree                Print the compiled expression tree",
  "    eval                Bind variables and evaluate",
  "",
  "options:",
  "  -h, --help            show this help message and exit",
  "  --version             show program's version number and exit",
  "  --config CONFIG       Config file (default: nearest .exprtreerc.yml)",
  "  --number-type " ++ numberKindAlternatives,
  "                        Numeric type for literals and values",
  "  --allow-nonfinite     Let division by zero produce inf/nan instead of",
  "                        failing",
  "  --json                Emit JSON output",
  "  --log-level " ++ logLevelAlternatives,
  "                        Logging level"]

/-- The help on the arguments that all commands take. -/
def sourceHelpLines : List String := [
  "",
  "positional arguments:",
  "  expression            Expression source text",
  "",
  "options:",
  "  -h, --help            show this help message and exit",
  "  -f FILE, --file FILE  Read the expression from a file"]

/-- The help on the arguments that only evaluation takes. -/
def bindingHelpLines : List String := [
  "  -s NAME=VALUE, --set NAME=VALUE",
  "                        Bind a variable (repeatable)",
  "  --math                Bind functions and constants from the math module by",
  "                        name"]

def helpLines (command : Option Command) : List String :=
  usageLines command ++
    match command with
    | none => programHelpLines
    | some .check | some .tree => sourceHelpLines
    | some .eval => sourceHelpLines ++ bindingHelpLines

/-- What is said about a misuse of the program's or a command's arguments. -/
def misuseLines (command : Option Command) (cause : Misuse) : List String :=
  usageLines command ++ [calledAs command ++ ": error: " ++ cause.message]

end Formula.CommandLine
