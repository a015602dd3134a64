import Formula.Files.Path

/-! Files at one moment. A snapshot tells which files and directories there are and which directory
is the working directory, and opening a file is looking it up. Every step of a path is looked up in
turn, so that a path fails at the first step that is missing or leads through a file. -/
namespace Formula.Files

inductive Entry where
  | directory
  | file (bytes : List UInt8)

/-- The files at one moment, each by the steps from the root. -/
structure Snapshot where
  working : List String
  entries : List (List String × Entry)

inductive Failure where
  | missing
  | notADirectory
  | directory
  | nameTooLong
  deriving DecidableEq

def Failure.number : Failure → Nat
  | missing => 2
  | notADirectory => 20
  | directory => 21
  | nameTooLong => 36

def Failure.cause : Failure → String
  | missing => "No such file or directory"
  | notADirectory => "Not a directory"
  | directory => "Is a directory"
  | nameTooLong => "File name too long"

def Failure.message (failure : Failure) (path : String) : String :=
  "[Errno " ++ toString failure.number ++ "] " ++ failure.cause ++ ": " ++ Text.quoted path

/-- The greatest number of bytes in a step of a path. -/
def stepLimit : Nat :=
  255

def pathLimit : Nat :=
  4095

namespace Snapshot

/-- What stands at the place with the given steps. Above every entry, and above the working
directory, there are directories. -/
def lookup? (s : Snapshot) (steps : List String) : Option Entry :=
  match s.entries.find? (·.1 == steps) with
  | some (_, entry) => some entry
  | none =>
    if steps.isPrefixOf s.working || s.entries.any (steps.isPrefixOf ·.1) then some .directory
    else none

/-- Follows the steps of a path from a place, whose own steps are given with the last one first. A
step that is empty or a dot stays where it is, which has to be a directory. -/
def follow (s : Snapshot) (place : List String) (entry : Entry) :
    List String → Except Failure Entry
  | [] => .ok entry
  | step :: steps =>
    match entry with
    | .file _ => .error .notADirectory
    | .directory =>
      if step = "" ∨ step = "." then follow s place .directory steps
      else if step = ".." then follow s place.tail .directory steps
      else if stepLimit < step.utf8ByteSize then .error .nameTooLong
      else
        match s.lookup? (step :: place).reverse with
        | some next => follow s (step :: place) next steps
        | none => .error .missing

def find (s : Snapshot) (path : String) : Except Failure Entry :=
  if path.isEmpty then .error .missing
  else if pathLimit < path.utf8ByteSize then .error .nameTooLong
  else follow s (if isAbsolute path then [] else s.working.reverse) .directory (stepsOf path)

def read (s : Snapshot) (path : String) : Except Failure (List UInt8) :=
  match s.find path with
  | .ok (.file bytes) => .ok bytes
  | .ok .directory => .error .directory
  | .error failure => .error failure

def isFile (s : Snapshot) (path : String) : Bool :=
  match s.find path with
  | .ok (.file _) => true
  | _ => false

end Snapshot

end Formula.Files
