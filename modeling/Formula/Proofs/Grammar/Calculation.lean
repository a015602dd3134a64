import Formula.Proofs.Grammar.Phrase
import Formula.Proofs.Number.Exactness
import Formula.Proofs.Symbols

/-! The mathematics of an expression without calls: what its text denotes over the rational numbers
once its variables have values. -/
namespace Formula

/-- What a text denotes, and all divisors in it. The value matters only if none of them is zero. -/
structure Calculation where
  value : Rat
  divisors : List Rat

def BinaryOperator.rational : BinaryOperator → Rat → Rat → Rat
  | add, a, b => a + b
  | sub, a, b => a - b
  | mul, a, b => a * b
  | div, a, b => a / b

namespace Grammar

/-- Calculations, where variables have the given values. Calls have no value. -/
def calculations (values : String → Rat) : Algebra Calculation where
  number n := ⟨n.rational, []⟩
  var name := ⟨values (String.ofList name.text), []⟩
  negation operand := ⟨-operand.value, operand.divisors⟩
  binary op left right := ⟨op.rational left.value right.value,
    left.divisors ++ right.divisors ++ if op = .div then [right.value] else []⟩
  call _ arguments := ⟨0, arguments.flatMap Calculation.divisors⟩

/-- The names of all functions that are called. -/
def callees : Algebra (List Name) where
  number _ := []
  var _ := []
  negation operand := operand
  binary _ left right := left ++ right
  call name arguments := arguments.flatten ++ [name]

namespace Derivation

def calculation (values : String → Rat) (d : Derivation) : Calculation :=
  d.sum.fold (calculations values)

def callees (d : Derivation) : List Name :=
  d.sum.fold Grammar.callees

end Derivation

/-! ### Texts without division -/

/-- Nothing of this meaning divides. -/
def Undivided : (c : Category) → Meaning Calculation c → Prop
  | .sum, a | .product, a | .atom, a => a.divisors = []
  | .addends, f | .factors, f => ∀ a, a.divisors = [] → (f a).divisors = []
  | .arguments, as | .further, as => ∀ a ∈ as, a.divisors = []

theorem undivided_binary {values : String → Rat} (op : BinaryOperator) (different : op ≠ .div)
    {left right : Calculation} (first : left.divisors = []) (second : right.divisors = []) :
    ((calculations values).binary op left right).divisors = [] := by
  simp [calculations, first, second, different]

/-- Where no slash is among the lexemes, nothing is divided. -/
theorem Phrase.undivided (values : String → Rat) (p : Phrase c)
    (noSlash : ∀ s ∈ p.lexemes, s.lexeme ≠ .mark '/') :
    Undivided c (p.fold (calculations values)) := by
  induction p with
  | sum _ _ first rest | product _ _ first rest =>
    obtain ⟨inFirst, inRest⟩ := List.forall_mem_append.mp noSlash
    exact rest inRest _ (first inFirst)
  | noAddend | noFactor => exact fun _ undivided => undivided
  | addend _ op _ _ _ right rest | factor _ op _ _ _ right rest =>
    obtain ⟨inOperator, others⟩ := List.forall_mem_cons.mp noSlash
    obtain ⟨inRight, inRest⟩ := List.forall_mem_append.mp others
    have different : op ≠ .div := by
      rintro rfl
      exact inOperator rfl
    intro left undivided
    exact rest inRest _ (undivided_binary op different undivided (right inRight))
  | number | var => rfl
  | call _ name _ _ _ arguments =>
    have inArguments := (List.forall_mem_append.mp (List.forall_mem_cons.mp
      (List.forall_mem_cons.mp noSlash).2).2).1
    exact List.flatMap_eq_nil_iff.mpr (arguments inArguments)
  | negation _ _ operand => exact operand (List.forall_mem_cons.mp noSlash).2
  | group _ _ _ inner =>
    exact inner (List.forall_mem_append.mp (List.forall_mem_cons.mp noSlash).2).1
  | noArgument | noFurther => exact fun _ none => absurd none List.not_mem_nil
  | someArguments _ _ first rest =>
    obtain ⟨inFirst, inRest⟩ := List.forall_mem_append.mp noSlash
    exact List.forall_mem_cons.mpr ⟨first inFirst, rest inRest⟩
  | further _ _ _ argument rest =>
    obtain ⟨inArgument, inRest⟩ :=
      List.forall_mem_append.mp (List.forall_mem_cons.mp noSlash).2
    exact List.forall_mem_cons.mpr ⟨argument inArgument, rest inRest⟩

theorem Derivation.divisors_eq_nil {d : Derivation} (values : String → Rat)
    (noSlash : '/' ∉ d.text) : (d.calculation values).divisors = [] := by
  refine d.sum.undivided values ?_
  intro s member same
  have inText : '/' ∈ s.text := by simp [Spaced.text, same, Lexeme.text]
  exact noSlash (List.mem_append_left _ (List.mem_flatMap.mpr ⟨s, member, inText⟩))

/-! ### Expressions without calls -/

theorem respects_callees (number? : String → Option Value) :
    (terms number?).Respects callees fun term? names => ∀ node : Node, term? = some node.term →
      names = [] → node.functionSymbols = [] where
  number n node denotes _ := by
    obtain ⟨value, _, same⟩ := Option.map_eq_some_iff.mp denotes
    rw [Node.term_eq_literal same.symm]
    rfl
  var name node denotes _ := by
    obtain ⟨slot, rfl, _⟩ := Node.term_eq_var (Option.some.inj denotes).symm
    rfl
  negation := by
    intro term? names ih node denotes none
    obtain ⟨term, rfl, same⟩ := Option.map_eq_some_iff.mp denotes
    obtain ⟨operand, rfl, rfl⟩ := Node.term_eq_negation same.symm
    exact ih operand rfl none
  binary := by
    intro left? names right? others op ihLeft ihRight node denotes none
    obtain ⟨first, rfl, denotes⟩ := Option.bind_eq_some_iff.mp denotes
    obtain ⟨second, rfl, same⟩ := Option.map_eq_some_iff.mp denotes
    obtain ⟨left, right, rfl, rfl, rfl⟩ := Node.term_eq_binary same.symm
    obtain ⟨noneLeft, noneRight⟩ := List.append_eq_nil_iff.mp none
    exact List.append_eq_nil_iff.mpr ⟨ihLeft left rfl noneLeft, ihRight right rfl noneRight⟩
  call := by
    intro terms? names name _ node _ none
    simp [callees] at none

end Grammar

end Formula
