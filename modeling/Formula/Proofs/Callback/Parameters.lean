import Formula.Callback.Signature
import Mathlib.Data.List.Basic

/-! Parameter lists. A call with positional arguments alone goes through the list of parameters from
left to right. Whether every parameter gets what it needs, and every argument its parameter, depends
on no more than the signature keeps of the list. -/
namespace Formula

/-- A parameter of a callback; all but those for further arguments may have a default. -/
inductive Parameter where
  | positional (alsoByKeyword hasDefault : Bool)
  | furtherArguments
  | keyword (hasDefault : Bool)
  | furtherKeywords

/-- Parameters can be called with this many positional arguments: each parameter takes the next of
them or its default, and none is left over. -/
def Parameter.callable : List Parameter → Nat → Bool
  | [], count => count == 0
  | .positional _ hasDefault :: others, 0 => hasDefault && callable others 0
  | .positional _ _ :: others, count + 1 => callable others count
  | .furtherArguments :: others, _ => callable others 0
  | .keyword hasDefault :: others, count => hasDefault && callable others count
  | .furtherKeywords :: others, count => callable others count

/-- The parameters of a callback in numbers: `positionalOnly` and then `positionalOrKeyword` ones,
the last `defaults` of which have a default, perhaps one for further arguments, the ones given by
keyword only, with a default or without, and perhaps one for further keywords. -/
structure Parameters where
  positionalOnly : Nat
  positionalOrKeyword : Nat
  defaults : Nat
  defaults_le : defaults ≤ positionalOnly + positionalOrKeyword
  variadic : Bool
  keywords : List Bool
  variadicKeywords : Bool

namespace Parameters

/-- The number of positional parameters. -/
def positional (p : Parameters) : Nat :=
  p.positionalOnly + p.positionalOrKeyword

/-- For every positional parameter, whether it has a default. -/
def haveDefaults (p : Parameters) : List Bool :=
  List.replicate (p.positional - p.defaults) false ++ List.replicate p.defaults true

/-- The parameters as they are written, one after the other. -/
def written (p : Parameters) : List Parameter :=
  (p.haveDefaults.take p.positionalOnly).map (.positional false) ++
    ((p.haveDefaults.drop p.positionalOnly).map (.positional true) ++
      ((if p.variadic then [.furtherArguments] else []) ++
        (p.keywords.map .keyword ++ if p.variadicKeywords then [.furtherKeywords] else [])))

/-- What binding sees of the parameters. -/
def signature (p : Parameters) : Signature :=
  ⟨p.positional, p.defaults, p.variadic, p.keywords.count false⟩

end Parameters

/-! ### Calls -/

namespace Parameter

theorem callable_positional (alsoByKeyword : Bool) (flags : List Bool) (others : List Parameter)
    (count : Nat) :
    callable (flags.map (.positional alsoByKeyword) ++ others) count =
      ((flags.drop count).all id && callable others (count - flags.length)) := by
  induction flags generalizing count with
  | nil => simp
  | cons flag flags ih =>
    cases count with
    | zero => simp [callable, ih, Bool.and_assoc]
    | succ count => simp [callable, ih]

theorem callable_furtherArguments (variadic : Bool) (others : List Parameter) (count : Nat) :
    callable ((if variadic then [.furtherArguments] else []) ++ others) count =
      callable others (if variadic then 0 else count) := by
  cases variadic <;> rfl

theorem callable_keywords (flags : List Bool) (others : List Parameter) (count : Nat) :
    callable (flags.map .keyword ++ others) count = (flags.all id && callable others count) := by
  induction flags with
  | nil => simp
  | cons flag flags ih => simp [callable, ih, Bool.and_assoc]

theorem callable_furtherKeywords (variadic : Bool) (count : Nat) :
    callable (if variadic then [.furtherKeywords] else []) count = (count == 0) := by
  cases variadic <;> rfl

end Parameter

theorem all_drop_defaults {required optional count : Nat} :
    ((List.replicate required false ++ List.replicate optional true).drop count).all id = true ↔
      required ≤ count := by
  rw [List.drop_append, List.drop_replicate, List.drop_replicate]
  simp [Nat.sub_eq_zero_iff_le]

namespace Parameters

theorem length_haveDefaults (p : Parameters) : p.haveDefaults.length = p.positional := by
  have atMost : p.defaults ≤ p.positional := p.defaults_le
  simp [haveDefaults, Nat.sub_add_cancel atMost]

theorem callable_iff (p : Parameters) (count : Nat) :
    Parameter.callable p.written count = true ↔
      p.positional - p.defaults ≤ count ∧ (count ≤ p.positional ∨ p.variadic = true) ∧
        ∀ hasDefault ∈ p.keywords, hasDefault = true := by
  have required : ((p.haveDefaults.take p.positionalOnly).drop count).all id = true ∧
      ((p.haveDefaults.drop p.positionalOnly).drop
        (count - (p.haveDefaults.take p.positionalOnly).length)).all id = true ↔
      p.positional - p.defaults ≤ count := by
    rw [← Bool.and_eq_true, ← List.all_append, ← List.drop_append, List.take_append_drop]
    exact all_drop_defaults
  have further : (if p.variadic then 0 else
      count - (p.haveDefaults.take p.positionalOnly).length -
        (p.haveDefaults.drop p.positionalOnly).length) = 0 ↔
      count ≤ p.positional ∨ p.variadic = true := by
    have parts := congrArg List.length (List.take_append_drop p.positionalOnly p.haveDefaults)
    rw [List.length_append, length_haveDefaults] at parts
    cases p.variadic with
    | true => simp
    | false =>
      simp only [Bool.false_eq_true, if_false, or_false]
      omega
  have keywords : p.keywords.all id = true ↔ ∀ hasDefault ∈ p.keywords, hasDefault = true := by
    simp
  rw [written, Parameter.callable_positional, Parameter.callable_positional,
    Parameter.callable_furtherArguments, Parameter.callable_keywords,
    Parameter.callable_furtherKeywords]
  simp only [Bool.and_eq_true, beq_iff_eq, further, keywords]
  rw [← and_assoc, required, and_comm (b := _ ∨ _)]

end Parameters

/-! ### Signatures -/

namespace Signature

theorem length_haveDefaults (s : Signature) : s.haveDefaults.length = s.positional := by
  simp only [haveDefaults, List.length_append, List.length_replicate]
  omega

end Signature

end Formula
