import Formula.Text.Quoted

/-! Paths. A path is absolute if it begins with a slash; its steps are what stands between slashes.
Read as a text, a path can be made absolute and simple without looking at any file: a step `..`
takes back the step before it, and of the slashes at the start one is left, unless there are just
two. -/
namespace Formula.Files

/-- The steps of a path; a step is empty where slashes adjoin each other or an end. -/
def stepsOf (path : String) : List String :=
  (path.toList.splitOn '/').map String.ofList

def isAbsolute (path : String) : Bool :=
  path.toList.head? == some '/'

/-- The root that a path is taken from when it is made absolute, as it is written. Two slashes lead
to the same place as one, but they are kept. -/
def rootOf (path : String) : String :=
  match path.toList with
  | '/' :: '/' :: '/' :: _ => "/"
  | '/' :: '/' :: _ => "//"
  | _ => "/"

/-- The path from a root along the given steps. -/
def pathText (root : String) (steps : List String) : String :=
  root ++ "/".intercalate steps

/-- Steps taken one after the other, the last one first; a step back at the root stays there. -/
def simplify (taken : List String) : List String → List String
  | [] => taken
  | step :: steps =>
    if step = "" ∨ step = "." then simplify taken steps
    else if step = ".." then simplify taken.tail steps
    else simplify (step :: taken) steps

/-- The simple steps from the root to a path that is taken from a directory. -/
def absoluteSteps (directory : List String) (path : String) : List String :=
  (simplify (if isAbsolute path then [] else directory.reverse) (stepsOf path)).reverse

/-- The directory of the given steps, the last one first, and all directories above it. -/
def ancestorsOf : List String → List (List String)
  | [] => [[]]
  | step :: above => (step :: above).reverse :: ancestorsOf above

/-- The directory of the given steps and all directories above it, the root last. -/
def ancestors (steps : List String) : List (List String) :=
  ancestorsOf steps.reverse

end Formula.Files
