import Formula.Config.Document
import Formula.Files.Contents

/-! Settings from files. Without a path the nearest file of one of four names counts, looked for in
a directory and then in those above it. A file that cannot be opened, or is malformed, is reported
and leaves the standard settings. -/
namespace Formula.Config

/-- The names of settings files, of which the first one counts most. -/
def fileNames : List String :=
  [".exprtreerc.yml", ".exprtreerc.yaml", ".exprtreerc.json", "exprtree.config.yml"]

/-- The path of the settings file in a directory that is reached from the given root. -/
def findIn? (files : Files.Snapshot) (root : String) (directory : List String) :
    Option (List String) :=
  (fileNames.map fun name => directory ++ [name]).find? fun steps =>
    files.isFile (Files.pathText root steps)

/-- The steps to the settings file nearest to a directory. -/
def find? (files : Files.Snapshot) (start : String) : Option (List String) :=
  (Files.ancestors (Files.absoluteSteps files.working start)).findSome?
    (findIn? files (Files.rootOf start))

/-- The settings in the text of the file at a path. -/
def ofText (yamlReader : YamlReader) (path : String) (text : List Char) : Logged Config := do
  let language := Language.ofPath path
  match ← Logged.ofExcept (language.read yamlReader text) with
  | none =>
    Logged.log (.configMalformed path ("no " ++ language.name ++ " document"))
    pure standard
  | some (.mapping entries) =>
    Logged.log (.configLoaded path)
    ofEntries entries
  | some _ => pure standard

def loadFrom (yamlReader : YamlReader) (files : Files.Snapshot) (path : String) : Logged Config :=
  if path.toList.contains '\x00' then throw (.value (.argument "embedded null byte"))
  else
    match files.read path with
    | .error failure => do
      Logged.log (.configUnreadable path (failure.message path))
      pure standard
    | .ok bytes => do
      let text ← Logged.ofExcept (Files.decodeText bytes)
      ofText yamlReader path text

/-- The settings in the file at a path, or without a path in the file nearest to a directory. -/
def load (yamlReader : YamlReader) (files : Files.Snapshot) (path : Option String)
    (start : String) : Logged Config :=
  match path <|> (find? files start).map (Files.pathText (Files.rootOf start)) with
  | none => pure standard
  | some path => loadFrom yamlReader files path

end Formula.Config
