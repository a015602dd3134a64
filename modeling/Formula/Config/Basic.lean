import Formula.Fault
import Formula.Value.Division

/-! Settings of an expression: the kind of its numbers and the policy of its divisions, and for the
command line how much is logged and in which form results are written. -/
namespace Formula

structure Config where
  numberKind : NumberKind
  checkDivision : Bool
  logLevel : String
  outputFormat : String

namespace Config

def standard : Config :=
  ⟨.float, true, "WARNING", "text"⟩

def policy (config : Config) : DivisionPolicy :=
  .ofFlag config.checkDivision

def numberKindOf (setting : Value) : Except Fault NumberKind :=
  match setting with
  | .list _ | .mapping _ => .error (.mismatch (.notHashable setting.typeName))
  | .text name =>
    match NumberKind.ofName? name with
    | some kind => .ok kind
    | none => .error (.value (.numberKind (Text.quoted name)))
  | other => do
    let quoted ← withinDigits other.quoted?
    .error (.value (.numberKind quoted))

end Config

end Formula
