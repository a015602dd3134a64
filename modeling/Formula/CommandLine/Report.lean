import Formula.CommandLine.Evaluation
import Formula.CommandLine.Usage
import Formula.Config.Loading

/-! A run of the program: from the arguments and the files there are to what the program says. What
is logged while settings are being loaded is not yet subject to them. -/
namespace Formula

namespace Config

/-- The settings with what the command line says. -/
def overriddenBy (overrides : CommandLine.Overrides) (config : Config) : Config where
  numberKind := overrides.numberKind.getD config.numberKind
  checkDivision := config.checkDivision && !overrides.allowNonfinite
  logLevel := overrides.logLevel.getD config.logLevel
  outputFormat := if overrides.json then "json" else config.outputFormat

def format (config : Config) : CommandLine.Format :=
  if config.outputFormat = "json" then .json else .text

end Config

namespace CommandLine

/-- What comes of a run: the events while settings are loaded and those after that, the level of
logging that is set, and the answer, unless a fault is left. -/
structure Report where
  loading : List Event
  running : List Event
  logLevel : String
  answer : Except Fault Answer

namespace Report

/-- The report of an answer that needs no settings. -/
def ofAnswer (answer : Answer) : Report :=
  ⟨[], [], Config.standard.logLevel, .ok answer⟩

/-- Events of a level are shown where logging is set to a level. -/
def isShown (threshold : String) : Level → Bool
  | .debug => threshold = "DEBUG"
  | .warning => ["DEBUG", "INFO", "WARNING"].contains threshold

def line (message : Event → String) (event : Event) : String :=
  event.level.name ++ " " ++ event.origin ++ ": " ++ message event

/-- The lines of the log, where `message` gives the messages of events. -/
def logLines (message : Event → String) (report : Report) : List String :=
  (report.loading.filter fun event => isShown Config.standard.logLevel event.level).map message ++
    (report.running.filter fun event => isShown report.logLevel event.level).map (line message)

def output (report : Report) : String :=
  match report.answer with
  | .ok answer => answer.output
  | .error _ => ""

/-- What the program writes as log and complaint, where `message` gives the messages of events. -/
def complaint (message : Event → String) (report : Report) : String :=
  linesText (report.logLines message) ++
    match report.answer with
    | .ok answer => answer.complaint
    | .error _ => ""

end Report

def Halt.answer : Halt → Answer
  | help command => ⟨0, linesText (helpLines command), ""⟩
  | version => ⟨0, versionText ++ "\n", ""⟩
  | noCommand => ⟨1, linesText (helpLines none), ""⟩
  | misuse command cause => ⟨2, "", linesText (misuseLines command cause)⟩

namespace Request

/-- The file that holds the source; an empty path names none. -/
def file? (request : Request) : Option String :=
  request.particulars.file.filter fun path => !path.isEmpty

/-- The source of a request, or the path of the file that is missing. -/
def source (files : Files.Snapshot) (request : Request) : Except String Source :=
  match request.file? with
  | none => .ok (.inline request.expression)
  | some path =>
    match files.read path with
    | .ok bytes => .ok (.file path bytes)
    | .error _ => .error path

/-- What is done for a request under the given settings. -/
def outcome (config : Config) (source : Source) (request : Request) : Logged Outcome := do
  Logged.log (.running request.command.name config)
  perform config source request.particulars request.command

/-- The directory from which settings files are looked for. -/
def startDirectory : String :=
  "."

def run (yamlReader : Config.YamlReader) (files : Files.Snapshot) (request : Request) : Report :=
  let (loaded, loading) :=
    (Config.load yamlReader files request.overrides.configPath startDirectory).outcome
  match loaded with
  | .error fault => ⟨loading, [], Config.standard.logLevel, .error fault⟩
  | .ok config =>
    let config := config.overriddenBy request.overrides
    match request.source files with
    | .error path =>
      ⟨loading, [], config.logLevel, (Outcome.missingFile path).answer config.format⟩
    | .ok source =>
      let (outcome, running) := (request.outcome config source).outcome
      ⟨loading, running, config.logLevel, outcome >>= Outcome.answer config.format⟩

end Request

def run (yamlReader : Config.YamlReader) (files : Files.Snapshot) (arguments : List String) :
    Report :=
  match Request.read arguments with
  | .error halt => .ofAnswer halt.answer
  | .ok request => request.run yamlReader files

/-- The paths of the files that a run may read, from the given working directory. -/
def consulted (working : List String) (arguments : List String) : List String :=
  match Request.read arguments with
  | .error _ => []
  | .ok request =>
    let settings := match request.overrides.configPath with
      | some path => [path]
      | none => (Files.ancestors working).flatMap fun directory =>
          Config.fileNames.map fun name => Files.pathText "/" (directory ++ [name])
    settings ++ request.file?.toList

end CommandLine

end Formula
