import Formula.Proofs.Session.Exactness
import Formula.Proofs.Session.Policies
import Formula.Proofs.Value.Typing

/-! Type soundness. An expression without calls whose variables have numbers of the kind in use
evaluates to a value that can arise in it, or fails otherwise than by a mismatch of types. The one
exception are decimals without checked divisions: once a quotient has been refused, the binary64
number that stands for it does not mix with them. -/
namespace Formula
open Grammar

/-- The variables of a node have these values. -/
def Session.HasValues (s : Session κ σ) (given : String → Value) (node : Node) : Prop :=
  ∀ slot ∈ node.variableSymbols, s.values slot.id = some (given slot.name)

/-- Evaluating a node comes to this and leaves the session as it is, whatever else it holds. -/
def Node.Settles (host : Host κ σ) (policy : DivisionPolicy) (given : String → Value)
    (node : Node) (outcome : Except Fault Value) : Prop :=
  ∀ s : Session κ σ, s.HasValues given node →
    (Node.evaluate host policy node).run s = (outcome, s)

section
variable {policy : DivisionPolicy} {given : String → Value} {host : Host κ σ}

theorem Node.Settles.negation {operand : Node} (settles : operand.Settles host policy given outcome)
    : Node.Settles host policy given (.negation operand) (outcome >>= Value.negate) := by
  intro s has
  rw [Node.evaluate_negation, settles s has]
  cases outcome <;> rfl

theorem Node.Settles.binary {left right : Node} (op : BinaryOperator)
    (first : left.Settles host policy given outcome)
    (second : right.Settles host policy given other) :
    Node.Settles host policy given (.binary op left right)
      (outcome >>= fun v => other >>= Value.combine policy op v) := by
  intro s has
  obtain ⟨hasLeft, hasRight⟩ := List.forall_mem_append.mp has
  rw [Node.evaluate_binary, first s hasLeft]
  cases outcome with
  | error fault => rfl
  | ok v =>
    rw [andThen_ok, second s hasRight]
    cases other <;> rfl

theorem wellTyped_bind {next : Value → Except Fault Value} (first : Value.WellTyped kind outcome)
    (second : ∀ v, Value.Arises kind v → Value.WellTyped kind (next v)) :
    Value.WellTyped kind (outcome >>= next) := by
  cases first with
  | ok arises => exact second _ arises
  | error own => exact .error own

/-- What the terms of a text without calls come to is well typed. -/
theorem respects_wellTyped (host : Host κ σ) (checked : kind = .decimal → policy = .checked)
    (numbers : ∀ (n : Number) v, number? (String.ofList n.text) = some v → Value.Arises kind v)
    (typed : ∀ x, Value.Arises kind (given x)) :
    (terms number?).Respects callees fun term? names => ∀ node : Node, term? = some node.term →
      names = [] → ∃ outcome, Value.WellTyped kind outcome ∧
        node.Settles host policy given outcome where
  number n node denotes _ := by
    obtain ⟨v, converted, same⟩ := Option.map_eq_some_iff.mp denotes
    rw [Node.term_eq_literal same.symm]
    exact ⟨.ok v, .ok (numbers n v converted), fun _ _ => rfl⟩
  var name node denotes _ := by
    obtain ⟨slot, rfl, named⟩ := Node.term_eq_var (Option.some.inj denotes).symm
    refine ⟨.ok (given slot.name), .ok (typed slot.name), fun s has => ?_⟩
    rw [Node.evaluate_var, Node.readValue, has slot (List.mem_singleton.mpr rfl)]
  negation := by
    intro term? names ih node denotes none
    obtain ⟨term, rfl, same⟩ := Option.map_eq_some_iff.mp denotes
    obtain ⟨operand, rfl, rfl⟩ := Node.term_eq_negation same.symm
    obtain ⟨outcome, wellTyped, settles⟩ := ih operand rfl none
    exact ⟨_, wellTyped_bind wellTyped fun _ => Value.wellTyped_negate, settles.negation⟩
  binary := by
    intro left? names right? others op ihLeft ihRight node denotes none
    obtain ⟨first, rfl, denotes⟩ := Option.bind_eq_some_iff.mp denotes
    obtain ⟨second, rfl, same⟩ := Option.map_eq_some_iff.mp denotes
    obtain ⟨left, right, rfl, rfl, rfl⟩ := Node.term_eq_binary same.symm
    obtain ⟨noneLeft, noneRight⟩ := List.append_eq_nil_iff.mp none
    obtain ⟨outcome, wellTyped, settles⟩ := ihLeft left rfl noneLeft
    obtain ⟨other, wellTypedRight, settlesRight⟩ := ihRight right rfl noneRight
    refine ⟨_, ?_, settles.binary op settlesRight⟩
    exact wellTyped_bind wellTyped fun v arises => wellTyped_bind wellTypedRight fun w =>
      Value.wellTyped_combine op checked arises
  call := by
    intro terms? names name _ node _ none
    simp [callees] at none

end

theorem Value.WellTyped.ne_mismatch {outcome : Except Fault Value}
    (wellTyped : Value.WellTyped kind outcome) (cause : Mismatch) :
    outcome ≠ .error (.mismatch cause) := by
  rintro rfl
  cases wellTyped with
  | error own => contradiction

theorem Value.isNumber_of_kind? {v : Value} (own : v.kind? = some kind) : v.isNumber = true := by
  cases v <;> first | rfl | contradiction

/-- Evaluating an expression without calls whose variables have numbers of the kind gives a value
that can arise, or a fault that is no mismatch. With decimals and unchecked divisions a mismatch
needs a quotient that checking refuses. -/
theorem evaluate_wellTyped (host : Host κ σ) (state : σ) (policy : DivisionPolicy)
    {d : Derivation} (text : d.text = source.toList) (callFree : d.callees = [])
    (success : Compiled.compile kind source name = .ok compiled) {given : String → Value}
    (typed : ∀ x, (given x).kind? = some kind) {assignments : List (Assignment κ)}
    (perm : assignments.Perm (compiled.assignments given)) :
    ∃ s, (Session.start compiled policy state).assign host.toInterface assignments = .ok s ∧
      ((kind = .decimal → policy = .checked) → Value.WellTyped kind (s.evaluate host).1) ∧
      ∀ cause, (s.evaluate host).1 = .error (.mismatch cause) →
        kind = .decimal ∧ policy = .unchecked ∧
          (s.evaluateRoot host .checked).1 = .error (.expression .divisionByZero) := by
  have denotes := term?_of_compile success text
  have noCall : compiled.root.functionSymbols = [] :=
    (respects_callees kind.read?).fold d.sum compiled.root denotes callFree
  obtain ⟨s, t, assigned, validated, root, samePolicy, held⟩ := exists_ready
    (tabulated_of_compile success) noCall host.toInterface policy state
    (fun x => (given x).isNumber_of_kind? (typed x)) perm
  have settled (other : DivisionPolicy) (checked : kind = .decimal → other = .checked) :
      ∃ outcome, Value.WellTyped kind outcome ∧
        compiled.root.Settles host other given outcome :=
    (respects_wellTyped host checked
      (fun _ _ converted => Value.arises_of_kind (NumberKind.kind?_of_read? converted))
      fun x => Value.arises_of_kind (typed x)).fold d.sum compiled.root denotes callFree
  have evaluated : s.evaluate host = (Node.evaluate host policy compiled.root).run t := by
    rw [Session.evaluate_of_ok host validated, samePolicy, root]
  refine ⟨s, assigned, fun checked => ?_, fun cause failed => ?_⟩
  · obtain ⟨outcome, wellTyped, settles⟩ := settled policy checked
    rw [evaluated, settles t held]
    exact wellTyped
  · rw [evaluated] at failed
    by_cases checked : kind = .decimal → policy = .checked
    · obtain ⟨outcome, wellTyped, settles⟩ := settled policy checked
      rw [settles t held] at failed
      exact absurd failed (wellTyped.ne_mismatch cause)
    obtain ⟨rfl, different⟩ := Classical.not_imp.mp checked
    obtain rfl : policy = .unchecked := by cases policy <;> first | rfl | contradiction
    obtain ⟨outcome, wellTyped, settles⟩ := settled .checked fun _ => rfl
    refine ⟨rfl, rfl, ?_⟩
    rcases evaluate_unchecked host compiled.root t with ⟨same, _⟩ | ⟨refused, _⟩
    · rw [same, settles t held] at failed
      exact absurd failed (wellTyped.ne_mismatch cause)
    · have validates := (Session.validate_ok_iff.mp validated).2
      rw [settles t held] at refused
      subst validates
      have sameRoot : s.root = compiled.root := root
      rw [Session.evaluateRoot, sameRoot, settles s held]
      exact refused

/-- An infinity stands for a quotient of integers. -/
theorem evaluate_wellTyped_of_infinity :
    let host := Callback.host Callback.shown
    let compiled : Compiled := ⟨"x/0", .binary .div (.var ⟨0, "x"⟩) (.literal (.int 0)),
      ⟨[⟨0, "x"⟩], []⟩⟩
    Compiled.compile .int "x/0" "<expr>" = .ok compiled ∧
      ∃ s, (Session.start compiled .unchecked .empty).assign host.toInterface
          [.var "x" (.int (-3))] = .ok s ∧
        Value.WellTyped .int (s.evaluate host).1 ∧
        (s.evaluate host).1 = .ok (.float (.infinity true)) := by
  intro host compiled
  let zero : Grammar.Number := ⟨⟨['0'], List.cons_ne_nil _ _, List.forall_mem_singleton.mpr rfl⟩,
    none, none, fun _ absent => nomatch absent⟩
  have text : (Derivation.scaling .div (.inr rfl) zero).text = "x/0".toList := rfl
  have read : readInt? (String.ofList zero.text) = some 0 :=
    zero.readInt?_eq_some.mpr ⟨⟨rfl, rfl⟩, by decide, rfl⟩
  have converted : NumberKind.int.read? (String.ofList zero.text) = some (.int 0) :=
    Option.map_eq_some_iff.mpr ⟨0, read, rfl⟩
  have success : Compiled.compile .int "x/0" "<expr>" = .ok compiled :=
    compile_scaling converted text "<expr>"
  have typed (x : String) : (Value.int (-3)).kind? = some NumberKind.int := rfl
  have perm : [.var "x" (.int (-3))].Perm
      (compiled.assignments fun _ => .int (-3) : List (Assignment Callback)) := .refl _
  obtain ⟨s, assigned, wellTyped, _⟩ :=
    evaluate_wellTyped host .empty .unchecked text rfl success typed perm
  refine ⟨success, s, assigned, wellTyped nofun, ?_⟩
  cases assigned
  rfl

/-- The infinity that stands for a quotient of decimals cannot be added to a decimal. -/
theorem evaluate_infinity_plus_decimal :
    let host := Callback.host Callback.shown
    ∃ compiled, Compiled.compile .decimal "1/0+1" "<expr>" = .ok compiled ∧
      compiled.context.functions = [] ∧ compiled.context.variables = [] ∧
      ((Session.start compiled .unchecked .empty).evaluate host).1 =
        .error (.mismatch (.operands "+" "float" "decimal.Decimal")) := by
  intro host
  have scanned : Lexeme.scan 1 "1/0+1".toList =
      [⟨.number ['1'], 1⟩, ⟨.mark '/', 2⟩, ⟨.number ['0'], 3⟩, ⟨.mark '+', 4⟩,
        ⟨.number ['1'], 5⟩] := by
    have text : "1/0+1".toList = ['1', '/', '0', '+', '1'] := rfl
    rw [text]
    decide +kernel
  refine ⟨⟨"1/0+1", .binary .add (.binary .div (.literal (.decimal (.finite false 1 0)))
    (.literal (.decimal (.finite false 0 0)))) (.literal (.decimal (.finite false 1 0))), .empty⟩,
    ?_, rfl, rfl, rfl⟩
  rw [Compiled.compile, Term.read, scanned, Situation.readOperand_eq_run]
  rfl

end Formula
