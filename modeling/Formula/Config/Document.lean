import Formula.Json.Reader
import Formula.Log

/-! Settings in a document. The document is a mapping; each setting is taken from the text of a
value, where the case of letters does not matter. A name that is not known leaves the setting as it
is and is reported.

Documents in JSON are read here. Those in YAML are read by whatever reader is at hand, which is a
parameter of all that loads settings: it gives the value of a document, refuses a text as malformed,
or comes to a fault. No more than that is supposed of it. -/
namespace Formula

namespace Json

mutual

def toValue : Json → Value
  | null => .none
  | bool b => .bool b
  | int n => .int n
  | float x => .float x
  | text s => .text s
  | array items => .list (toValues items)
  | object fields => .mapping (toEntries fields)

def toValues : List Json → List Value
  | [] => []
  | item :: items => toValue item :: toValues items

def toEntries : List (String × Json) → List (Value × Value)
  | [] => []
  | (name, content) :: fields => (.text name, toValue content) :: toEntries fields

end

end Json

namespace Config

def logLevels : List String :=
  ["DEBUG", "INFO", "WARNING", "ERROR", "CRITICAL"]

/-- A letter as a capital. Of the letters outside ASCII only two have a capital inside. -/
def capital (c : Char) : Char :=
  if c = 'ı' then 'I' else if c = 'ſ' then 'S' else c.toUpper

def setting? (entries : List (Value × Value)) (name : String) : Option Value :=
  (entries.find? fun entry => match entry.1 with
    | .text key => key == name
    | _ => false).map (·.2)

/-- The settings with the number kind of a document. -/
def withNumberKind (config : Config) : Option Value → Logged Config
  | none => pure config
  | some value => do
    let name ← Logged.ofExcept (withinDigits value.text?)
    match NumberKind.ofName? (name.map Char.toLower) with
    | some kind => pure { config with numberKind := kind }
    | none => do
      let quoted ← Logged.ofExcept (withinDigits value.quoted?)
      Logged.log (.numberKindUnknown quoted)
      pure config

/-- The settings with the log level of a document. -/
def withLogLevel (config : Config) : Option Value → Logged Config
  | none => pure config
  | some value => do
    let name ← Logged.ofExcept (withinDigits value.text?)
    let level := name.map capital
    if logLevels.contains level then pure { config with logLevel := level }
    else do
      let quoted ← Logged.ofExcept (withinDigits value.quoted?)
      Logged.log (.logLevelUnknown quoted config.logLevel)
      pure config

/-- The settings with the output format of a document. -/
def withOutputFormat (config : Config) : Option Value → Logged Config
  | none => pure config
  | some value => do
    let format ← Logged.ofExcept (withinDigits value.text?)
    pure { config with outputFormat := format }

def ofEntries (entries : List (Value × Value)) : Logged Config := do
  let config ← standard.withNumberKind (setting? entries "number_type")
  let config := match setting? entries "check_division" with
    | some value => { config with checkDivision := value.holds }
    | none => config
  let config ← config.withLogLevel (setting? entries "log_level")
  config.withOutputFormat (setting? entries "output_format")

/-! ### Languages of documents -/

/-- The language that a document is written in. -/
inductive Language where
  | json
  | yaml
  deriving DecidableEq

def Language.name : Language → String
  | json => "JSON"
  | yaml => "YAML"

def Language.ofPath (path : String) : Language :=
  if ".json".toList.isSuffixOf path.toList then json else yaml

/-- A reader of documents in YAML. -/
abbrev YamlReader :=
  List Char → Except Unread Value

/-- Reads a document; a malformed one has no value. -/
def Language.read (yamlReader : YamlReader) (language : Language) (text : List Char) :
    Except Fault (Option Value) :=
  match language with
  | json =>
    match Json.read (String.ofList text) with
    | .ok content => .ok (some content.toValue)
    | .error .malformed => .ok none
    | .error (.integerTooLong digits) => .error (.value (.argument (tooManyDigitsRead digits)))
  | yaml =>
    match yamlReader text with
    | .ok content => .ok (some content)
    | .error .malformed => .ok none
    | .error (.fault cause) => .error cause

end Config

end Formula
