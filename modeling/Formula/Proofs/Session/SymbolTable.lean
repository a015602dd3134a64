import Formula.Callback.Script
import Formula.Proofs.Grammar.Automaton
import Formula.Proofs.Grammar.Occurrences
import Formula.Proofs.Session.Binding
import Formula.Proofs.Value.Printing

/-! The symbol table of a compiled expression. It lists exactly the symbols of the tree, variables
in the order in which the source first names them, and every occurrence of a symbol in the tree is
the slot that the table has for it. What can be bound is therefore what occurs. -/
namespace Formula

namespace Context

theorem Tabulated.lookupVariable_eq_some {context : Context} (tabulated : context.Tabulated)
    (member : slot ∈ context.variables) : context.lookupVariable slot.name = some slot := by
  cases found : context.lookupVariable slot.name with
  | none => exact absurd (List.find?_eq_none.mp found slot member) (by simp)
  | some other =>
    obtain ⟨otherMember, named⟩ := lookupVariable_some found
    rw [tabulated.keyedVariables.eq_of_key otherMember member named]

theorem Tabulated.lookupFunction_eq_some {context : Context} (tabulated : context.Tabulated)
    (member : slot ∈ context.functions) :
    context.lookupFunction slot.name slot.arity = some slot := by
  cases found : context.lookupFunction slot.name slot.arity with
  | none => exact absurd (List.find?_eq_none.mp found slot member) (by simp)
  | some other =>
    obtain ⟨otherMember, named, counted⟩ := lookupFunction_some found
    rw [tabulated.keyedFunctions.eq_of_key otherMember member (Prod.ext named counted)]

theorem Lists.lookupVariable_eq_none_iff {context : Context} (lists : context.Lists names keys) :
    context.lookupVariable name = none ↔ name ∉ names := by
  simp [lookupVariable, lists.mem_names]

theorem Lists.lookupFunction_eq_none_iff {context : Context} (lists : context.Lists names keys) :
    context.lookupFunction name arity = none ↔ (name, arity) ∉ keys := by
  simp [lookupFunction, lists.mem_keys]

/-- The slot of a function with a number of arguments, which is none if the number is negative. -/
def findFunction (context : Context) (name : String) (arity : Int) : Option FunctionSlot :=
  if arity < 0 then none else context.lookupFunction name arity.toNat

theorem findFunction_natCast (context : Context) (name : String) (arity : Nat) :
    context.findFunction name arity = context.lookupFunction name arity := by
  rw [findFunction, if_neg (by omega), Int.toNat_natCast]

theorem findFunction_some {context : Context} {arity : Int}
    (found : context.findFunction name arity = some slot) :
    slot ∈ context.functions ∧ slot.name = name ∧ (slot.arity : Int) = arity := by
  unfold findFunction at found
  split at found
  · contradiction
  · obtain ⟨member, named, counted⟩ := lookupFunction_some found
    exact ⟨member, named, by omega⟩

theorem Lists.findFunction_eq_none_iff {context : Context} (lists : context.Lists names keys)
    {arity : Int} : context.findFunction name arity = none ↔
      ∀ count : Nat, (count : Int) = arity → (name, count) ∉ keys := by
  unfold findFunction
  split
  · next negative => exact ⟨fun _ count same => by omega, fun _ => rfl⟩
  · next natural =>
    rw [lists.lookupFunction_eq_none_iff]
    constructor
    · rintro absent count rfl
      exact absent
    · exact fun absent => absent _ (by omega)

end Context

/-! ### Undefined symbols -/

section
variable {s : Session κ σ} {interface : Interface κ}

theorem Fault.ofError_of_short {error : ExpressionError}
    (short : ∀ n, error.integer? = some n → n.natAbs < 10 ^ digitLimit) :
    ofError error = .expression error := by
  unfold ofError
  cases told : error.integer? with
  | none => rfl
  | some n =>
    have limited : Text.digitCount n.natAbs ≤ digitLimit :=
      Nat.not_lt.mp fun long => Nat.not_le.mpr (short n told) (digitLimit_lt_digitCount.mp long)
    rw [Option.map_some, Value.intText?_eq_some.mpr ⟨limited, rfl⟩]

theorem Fault.ofError_of_long {error : ExpressionError} (told : error.integer? = some n)
    (long : 10 ^ digitLimit ≤ n.natAbs) : ofError error = .value .tooManyDigits := by
  rw [ofError, told, Option.map_some, Value.intText?_eq_none.mpr long]

theorem functionSlot?_natCast (s : Session κ σ) (name : String) (arity : Nat) :
    s.functionSlot? name arity = s.context.lookupFunction name arity := by
  unfold Session.functionSlot?
  rw [if_neg (by omega), Int.toNat_natCast]

theorem functionSlot?_of_mem (tabulated : s.context.Tabulated)
    (member : slot ∈ s.context.functions) :
    s.functionSlot? slot.name slot.arity = some slot := by
  rw [functionSlot?_natCast, tabulated.lookupFunction_eq_some member]

end

/-- What `f(a)-f()+f+a` is compiled to. -/
def Compiled.namesakes : Compiled :=
  ⟨"f(a)-f()+f+a",
    .binary .add (.binary .add (.binary .sub (.call ⟨0, "f", 1⟩ [.var ⟨0, "a"⟩])
      (.call ⟨1, "f", 0⟩ [])) (.var ⟨1, "f"⟩)) (.var ⟨0, "a"⟩),
    ⟨[⟨0, "a"⟩, ⟨1, "f"⟩], [⟨0, "f", 1⟩, ⟨1, "f", 0⟩]⟩⟩

theorem compile_namesakes :
    Compiled.compile .int "f(a)-f()+f+a" "<expr>" = .ok .namesakes := by
  have scanned : Lexeme.scan 1 "f(a)-f()+f+a".toList =
      [⟨.name ['f'], 1⟩, ⟨.mark '(', 2⟩, ⟨.name ['a'], 3⟩, ⟨.mark ')', 4⟩, ⟨.mark '-', 5⟩,
        ⟨.name ['f'], 6⟩, ⟨.mark '(', 7⟩, ⟨.mark ')', 8⟩, ⟨.mark '+', 9⟩, ⟨.name ['f'], 10⟩,
        ⟨.mark '+', 11⟩, ⟨.name ['a'], 12⟩] := by
    have text : "f(a)-f()+f+a".toList =
        ['f', '(', 'a', ')', '-', 'f', '(', ')', '+', 'f', '+', 'a'] := rfl
    rw [text]
    decide +kernel
  rw [Compiled.compile, Term.read, scanned, Grammar.Situation.readOperand_eq_run]
  rfl

end Formula
