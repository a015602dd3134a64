import Formula.CommandLine.Report
import Formula.Yaml.Document

/-! The program. Everything it decides is a function of its arguments and of the files it may read;
here those files are read, settings in YAML among them, and the answer is written. -/
open Formula

/-- What stands at a path, if there is anything that can be read. -/
def entryAt (path : String) : IO (Option Files.Entry) := do
  let place := (← IO.currentDir) / path
  if ← place.isDir then return some .directory
  try
    let bytes ← IO.FS.readBinFile place
    return some (.file bytes.toList)
  catch _ => return none

/-- The files that a run with the given arguments may read, as they are now. -/
def snapshotFor (arguments : List String) : IO Files.Snapshot := do
  let working := Files.absoluteSteps [] (← IO.currentDir).toString
  let mut entries := []
  for path in CommandLine.consulted working arguments do
    if let some entry ← entryAt path then
      entries := (Files.absoluteSteps working path, entry) :: entries
  return ⟨working, entries⟩

/-- Runs the program and gives its status; a fault that is left has the status 1. -/
def main (arguments : List String) : IO UInt32 := do
  let report := CommandLine.run Yaml.read (← snapshotFor arguments) arguments
  let output ← IO.getStdout
  let errors ← IO.getStderr
  output.putStr report.output
  errors.putStr (report.complaint Event.message)
  match report.answer with
  | .ok answer => return UInt32.ofNat answer.status
  | .error fault =>
    errors.putStrLn (fault.typeName ++ ": " ++ fault.message)
    return 1
