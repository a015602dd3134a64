/-! Signatures of callbacks, as far as calls with positional arguments alone depend on them. -/
namespace Formula

/-- The parameters of a callback: positional ones, the last `defaults` of which have a default,
perhaps a parameter for any further arguments, and keyword parameters. -/
structure Signature where
  positional : Nat
  defaults : Nat
  variadic : Bool
  requiredKeywords : Nat
  deriving DecidableEq

namespace Signature

/-- The signature of `count` required positional parameters. -/
def fixed (count : Nat) : Signature :=
  ⟨count, 0, false, 0⟩

/-- For every positional parameter, whether it has a default. -/
def haveDefaults (s : Signature) : List Bool :=
  List.replicate (s.positional - s.defaults) false ++
    List.replicate (min s.defaults s.positional) true

/-- Gives the parameters their arguments in order, and the default to those left without one. The
result has the values of the parameters and the arguments left over. -/
def fill (default : α) : List Bool → List α → Option (List α × List α)
  | [], arguments => some ([], arguments)
  | _ :: parameters, argument :: arguments =>
    (fill default parameters arguments).map fun (values, rest) => (argument :: values, rest)
  | true :: parameters, [] =>
    (fill default parameters []).map fun (values, rest) => (default :: values, rest)
  | false :: _, [] => none

/-- The values of the positional parameters, followed by the further arguments, when a callback is
called with positional arguments, if it can be called with them. -/
def bind? (s : Signature) (default : α) (arguments : List α) : Option (List α) :=
  match fill default s.haveDefaults arguments with
  | none => none
  | some (values, rest) =>
    if s.requiredKeywords = 0 ∧ (s.variadic ∨ rest = []) then some (values ++ rest) else none

/-- The callback can be called with `count` positional arguments. -/
def accepts (s : Signature) (count : Nat) : Bool :=
  (s.bind? () (List.replicate count ())).isSome

end Signature

end Formula
