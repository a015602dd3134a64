import Formula.Text.Quoted

/-! Forms of options. An option has one or more names and either takes a value or does not. Options
fill in settings of a type `α` one after the other; an option may also put an end to reading,
because it asks for help or for the version or because its value is not one of those it admits. -/
namespace Formula.CommandLine

inductive Misuse where
  | ambiguous (argument : String) (names : List String)
  | missingValue (option : String)
  | superfluousValue (option value : String)
  | invalidChoice (argument value : String) (choices : List String)
  | unrecognized (arguments : List String)
  deriving DecidableEq

def Misuse.message : Misuse → String
  | ambiguous argument names =>
    "ambiguous option: " ++ argument ++ " could match " ++ ", ".intercalate names
  | missingValue option => "argument " ++ option ++ ": expected one argument"
  | superfluousValue option value =>
    "argument " ++ option ++ ": ignored explicit argument " ++ Text.quoted value
  | invalidChoice argument value choices =>
    "argument " ++ argument ++ ": invalid choice: " ++ Text.quoted value ++ " (choose from " ++
      ", ".intercalate (choices.map Text.quoted) ++ ")"
  | unrecognized arguments => "unrecognized arguments: " ++ " ".intercalate arguments

/-- Why reading ends before all arguments are read. -/
inductive Stop where
  | help
  | version
  | misuse (cause : Misuse)
  deriving DecidableEq

/-- What an option does, without a value or with one. -/
inductive Effect (α : Type) where
  | plain (apply : α → Except Stop α)
  | valued (apply : String → α → Except Stop α)

structure Form (α : Type) where
  names : List String
  effect : Effect α

/-- The names of an option as messages show them. -/
def shownNames (names : List String) : String :=
  "/".intercalate names

namespace Form

def shown (form : Form α) : String :=
  shownNames form.names

def help : Form α :=
  ⟨["-h", "--help"], .plain fun _ => .error .help⟩

def version : Form α :=
  ⟨["--version"], .plain fun _ => .error .version⟩

def flag (names : List String) (set : α → α) : Form α :=
  ⟨names, .plain fun settings => .ok (set settings)⟩

def setting (names : List String) (set : String → α → α) : Form α :=
  ⟨names, .valued fun value settings => .ok (set value settings)⟩

def choice (names choices : List String) (set : String → α → α) : Form α :=
  ⟨names, .valued fun value settings =>
    if choices.contains value then .ok (set value settings)
    else .error (.misuse (.invalidChoice (shownNames names) value choices))⟩

def named? (forms : List (Form α)) (name : String) : Option (Form α) :=
  forms.find? (·.names.contains name)

/-- The names that begin in the given way, each with its option. -/
def beginning (forms : List (Form α)) (start : String) : List (String × Form α) :=
  forms.flatMap fun form =>
    (form.names.filter fun name => start.toList.isPrefixOf name.toList).map fun name => (name, form)

end Form

end Formula.CommandLine
