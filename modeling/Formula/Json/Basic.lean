import Formula.Number.Binary64.Basic

/-! JSON values. Numbers are integers of any size or binary64 numbers, whichever way they are
written; the fields of an object keep their order. -/
namespace Formula

inductive Json where
  | null
  | bool (value : Bool)
  | int (value : Int)
  | float (value : Binary64)
  | text (value : String)
  | array (items : List Json)
  | object (fields : List (String × Json))
  deriving Inhabited

namespace Json

/-- Fields in which the last value of each name counts, at the place of its first one. -/
def insertField (fields : List (String × Json)) (name : String) (value : Json) :
    List (String × Json) :=
  if fields.any (·.1 == name) then
    fields.map fun field => if field.1 == name then (name, value) else field
  else
    fields ++ [(name, value)]

/-- The object of a sequence of fields, in which later ones replace earlier ones. -/
def ofFields (fields : List (String × Json)) : Json :=
  object (fields.foldl (fun kept field => insertField kept field.1 field.2) [])

def field? (name : String) : Json → Option Json
  | object fields => (fields.find? (·.1 == name)).map (·.2)
  | _ => none

end Json

end Formula
