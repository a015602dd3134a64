import Formula.Proofs.Grammar.Calculation
import Formula.Proofs.Grammar.Exactness
import Formula.Proofs.Session.Independence

/-! Exact evaluation. Fractions stand for themselves and integers for the fractions equal to them;
negation and the operators keep what values stand for. So an expression without calls evaluates to
a value that stands for what its text denotes, and fails only where its text divides by zero. -/
namespace Formula

/-- Values of a kind stand for rational numbers, and the operations on them are exact; division
need not be one of them. -/
structure Exact (policy : DivisionPolicy) (Stands : Value → Rat → Prop) (divides : Prop) :
    Prop where
  negate : Stands v q → ∃ w, v.negate = .ok w ∧ Stands w (-q)
  combine (op : BinaryOperator) : Stands v q → Stands w r → (op = .div → divides ∧ r ≠ 0) →
    ∃ u, Value.combine policy op v w = .ok u ∧ Stands u (op.rational q r)
  divideByZero : divides → Stands v q → Stands w 0 →
    Value.combine policy .div v w = .error (.expression .divisionByZero)

theorem exact_fraction : Exact .checked (fun v q => v = .fraction q) True where
  negate := by
    rintro _ q rfl
    exact ⟨_, rfl, rfl⟩
  combine := by
    rintro _ q _ r op rfl rfl nonzero
    refine ⟨.fraction (op.rational q r), ?_, rfl⟩
    cases op with
    | add | sub | mul => rfl
    | div =>
      have numerator : r.num ≠ 0 := Rat.num_ne_zero.mpr (nonzero rfl).2
      have quotient : Value.apply .div (.fraction q) (.fraction r) = .ok (.fraction (q / r)) :=
        if_neg numerator
      unfold Value.combine Value.divide
      rw [if_pos rfl, quotient]
      rfl
  divideByZero := by
    rintro _ q _ _ rfl rfl
    rfl

theorem exact_int (policy : DivisionPolicy) :
    Exact policy (fun v q => ∃ n : Int, v = .int n ∧ q = n) False where
  negate := by
    rintro _ _ ⟨n, rfl, rfl⟩
    exact ⟨_, rfl, -n, rfl, by push_cast; rfl⟩
  combine := by
    rintro _ _ _ _ op ⟨n, rfl, rfl⟩ ⟨m, rfl, rfl⟩ nonzero
    cases op with
    | add => exact ⟨_, rfl, n + m, rfl, by simp [BinaryOperator.rational]⟩
    | sub => exact ⟨_, rfl, n - m, rfl, by simp [BinaryOperator.rational]⟩
    | mul => exact ⟨_, rfl, n * m, rfl, by simp [BinaryOperator.rational]⟩
    | div => exact absurd (nonzero rfl).1 not_false
  divideByZero divides := absurd divides not_false

/-- The outcome is a value that stands for the calculated one, or a division by zero if a divisor
is zero. -/
def Calculation.Gives (Stands : Value → Rat → Prop) (c : Calculation)
    (outcome : Except Fault Value) : Prop :=
  if 0 ∈ c.divisors then outcome = .error (.expression .divisionByZero)
  else ∃ v, outcome = .ok v ∧ Stands v c.value

section
variable {Stands : Value → Rat → Prop} {policy : DivisionPolicy} {divides : Prop}

theorem Exact.gives_negation (exact : Exact policy Stands divides) {c : Calculation}
    (gives : c.Gives Stands outcome) :
    Calculation.Gives Stands ⟨-c.value, c.divisors⟩ (outcome >>= Value.negate) := by
  unfold Calculation.Gives at gives ⊢
  split at gives
  · next zero =>
    rw [if_pos zero, gives]
    rfl
  · next nonzero =>
    obtain ⟨v, rfl, stands⟩ := gives
    rw [if_neg nonzero]
    exact exact.negate stands

theorem Exact.gives_binary (exact : Exact policy Stands divides) (values : String → Rat)
    (op : BinaryOperator) {left right : Calculation} (first : left.Gives Stands outcome)
    (second : right.Gives Stands other) (division : op = .div → divides) :
    ((Grammar.calculations values).binary op left right).Gives Stands
      (outcome >>= fun v => other >>= Value.combine policy op v) := by
  unfold Calculation.Gives at first second ⊢
  simp only [Grammar.calculations, List.mem_append]
  -- Operands are evaluated from left to right, so a zero divisor on the left is found first.
  by_cases zeroLeft : 0 ∈ left.divisors
  · rw [if_pos zeroLeft] at first
    rw [if_pos (.inl (.inl zeroLeft)), first]
    rfl
  rw [if_neg zeroLeft] at first
  obtain ⟨v, rfl, stands⟩ := first
  by_cases zeroRight : 0 ∈ right.divisors
  · rw [if_pos zeroRight] at second
    rw [if_pos (.inl (.inr zeroRight)), second]
    rfl
  rw [if_neg zeroRight] at second
  obtain ⟨w, rfl, standsRight⟩ := second
  by_cases byZero : op = .div ∧ right.value = 0
  · obtain ⟨rfl, zero⟩ := byZero
    have inQuotient : (0 : Rat) ∈ if BinaryOperator.div = .div then [right.value] else [] := by
      simp [zero]
    rw [if_pos (.inr inQuotient)]
    exact exact.divideByZero (division rfl) stands (zero ▸ standsRight)
  · have nonzero : op = .div → divides ∧ right.value ≠ 0 :=
      fun divided => ⟨division divided, fun zero => byZero ⟨divided, zero⟩⟩
    have notInQuotient : (0 : Rat) ∉ if op = .div then [right.value] else [] := by
      split
      · next divided => simpa [eq_comm] using (nonzero divided).2
      · exact List.not_mem_nil
    rw [if_neg fun member => by rcases member with (member | member) | member <;> contradiction]
    exact exact.combine op stands standsRight nonzero

/-- Evaluating a node leaves the session as it is, and gives what is calculated. -/
def Exact.Evaluates (host : Host κ σ) (policy : DivisionPolicy) (Stands : Value → Rat → Prop)
    (s : Session κ σ) (node : Node) (c : Calculation) : Prop :=
  ∃ outcome, (Node.evaluate host policy node).run s = (outcome, s) ∧ c.Gives Stands outcome

/-- The variables of a node have values that stand for these. -/
def Session.Holds (Stands : Value → Rat → Prop) (s : Session κ σ) (values : String → Rat)
    (node : Node) : Prop :=
  ∀ slot ∈ node.variableSymbols, ∃ v, s.values slot.id = some v ∧ Stands v (values slot.name)

theorem Exact.respects (exact : Exact policy Stands divides) (host : Host κ σ)
    (numbers : ∀ (n : Grammar.Number) v, number? (String.ofList n.text) = some v →
      Stands v n.rational)
    (s : Session κ σ) (values : String → Rat) :
    (Grammar.terms number?).Respects (Grammar.calculations values) fun term? c =>
      ∀ node : Node, term? = some node.term → node.functionSymbols = [] →
        s.Holds Stands values node → divides ∨ c.divisors = [] →
        Evaluates host policy Stands s node c where
  number n node denotes _ _ _ := by
    obtain ⟨v, converted, same⟩ := Option.map_eq_some_iff.mp denotes
    rw [Node.term_eq_literal same.symm]
    exact ⟨.ok v, rfl, v, rfl, numbers n v converted⟩
  var name node denotes _ holds _ := by
    obtain ⟨slot, rfl, named⟩ := Node.term_eq_var (Option.some.inj denotes).symm
    obtain ⟨v, held, stands⟩ := holds slot (List.mem_singleton.mpr rfl)
    rw [named] at stands
    refine ⟨.ok v, ?_, v, rfl, stands⟩
    rw [Node.evaluate_var, Node.readValue, held]
  negation := by
    intro term? c ih node denotes noCall holds divided
    obtain ⟨term, rfl, same⟩ := Option.map_eq_some_iff.mp denotes
    obtain ⟨operand, rfl, rfl⟩ := Node.term_eq_negation same.symm
    obtain ⟨outcome, run, gives⟩ := ih operand rfl noCall holds divided
    refine ⟨outcome >>= Value.negate, ?_, exact.gives_negation gives⟩
    rw [Node.evaluate_negation, run]
    cases outcome <;> rfl
  binary := by
    intro left? left right? right op ihLeft ihRight node denotes noCall holds divided
    obtain ⟨first, rfl, denotes⟩ := Option.bind_eq_some_iff.mp denotes
    obtain ⟨second, rfl, same⟩ := Option.map_eq_some_iff.mp denotes
    obtain ⟨leftNode, rightNode, rfl, rfl, rfl⟩ := Node.term_eq_binary same.symm
    obtain ⟨noCallLeft, noCallRight⟩ := List.append_eq_nil_iff.mp noCall
    obtain ⟨holdsLeft, holdsRight⟩ := List.forall_mem_append.mp holds
    have parts : (op = .div → divides) ∧ (divides ∨ left.divisors = []) ∧
        (divides ∨ right.divisors = []) := by
      rcases divided with divides | undivided
      · exact ⟨fun _ => divides, .inl divides, .inl divides⟩
      · obtain ⟨operands, quotient⟩ := List.append_eq_nil_iff.mp undivided
        obtain ⟨inLeft, inRight⟩ := List.append_eq_nil_iff.mp operands
        refine ⟨?_, .inr inLeft, .inr inRight⟩
        rintro rfl
        contradiction
    obtain ⟨division, dividedLeft, dividedRight⟩ := parts
    obtain ⟨outcome, run, gives⟩ := ihLeft leftNode rfl noCallLeft holdsLeft dividedLeft
    obtain ⟨other, runRight, givesRight⟩ :=
      ihRight rightNode rfl noCallRight holdsRight dividedRight
    refine ⟨outcome >>= fun v => other >>= Value.combine policy op v, ?_,
      exact.gives_binary values op gives givesRight division⟩
    rw [Node.evaluate_binary, run]
    cases outcome with
    | error fault => rfl
    | ok v =>
      rw [andThen_ok, runRight]
      cases other <;> rfl
  call := by
    intro terms? calculations name _ node denotes noCall _ _
    obtain ⟨arguments, _, same⟩ := Option.map_eq_some_iff.mp denotes
    obtain ⟨slot, nodes, rfl⟩ := Node.term_eq_call same.symm
    exact absurd (List.append_eq_nil_iff.mp noCall).2 (List.cons_ne_nil _ _)

end

/-! ### Sessions -/

/-- Assignments that give a value to every variable of an expression. -/
def Compiled.assignments (compiled : Compiled) (given : String → Value) : List (Assignment κ) :=
  compiled.context.variables.map fun slot => .var slot.name (given slot.name)

theorem Compiled.Tabulated.last_assignment {compiled : Compiled} (tabulated : compiled.Tabulated)
    {given : String → Value} {assignments : List (Assignment κ)}
    (perm : assignments.Perm (compiled.assignments given))
    (member : slot ∈ compiled.context.variables) :
    lastFor assignments slot.symbol = some (.var slot.name (given slot.name)) := by
  have distinct : (compiled.assignments given : List (Assignment κ)).Pairwise
      fun a b => a.symbol ≠ b.symbol := by
    have keys := tabulated.tabulated.keyedVariables.keys
    rw [List.Nodup, List.pairwise_map] at keys
    rw [Compiled.assignments, List.pairwise_map]
    exact keys.imp fun different same => different (Symbol.var.inj same)
  rw [lastFor_eq_some_of_distinct (distinct.perm perm.symm Ne.symm), perm.mem_iff]
  exact ⟨List.mem_map_of_mem member, rfl⟩

/-- Every variable can be given a number, and then has it. -/
theorem exists_assigned {compiled : Compiled} (tabulated : compiled.Tabulated)
    (interface : Interface κ) (policy : DivisionPolicy) (state : σ) {given : String → Value}
    (number : ∀ x, (given x).isNumber = true) {assignments : List (Assignment κ)}
    (perm : assignments.Perm (compiled.assignments given)) :
    ∃ s, (Session.start compiled policy state).assign interface assignments = .ok s ∧
      Binds interface (Session.start compiled policy state) assignments s ∧
      ∀ slot ∈ compiled.context.variables, s.values slot.id = some (given slot.name) := by
  have effects : ∀ a ∈ assignments, ∃ before after : Session κ σ,
      before.context = compiled.context ∧ Assignment.Effect interface before a after := by
    intro a member
    obtain ⟨slot, tabled, rfl⟩ := List.mem_map.mp (perm.mem_iff.mp member)
    have found : (compiled.context.lookupVariable slot.name).isSome = true :=
      List.find?_isSome.mpr ⟨slot, tabled, by simp⟩
    obtain ⟨_, found⟩ := Option.isSome_iff_exists.mp found
    exact ⟨Session.start compiled policy state, _, rfl, .var found (number slot.name)⟩
  obtain ⟨s, assigned, binds⟩ := exists_assign (s := Session.start compiled policy state) effects
  refine ⟨s, assigned, binds, ?_⟩
  intro slot member
  have held : s.values slot.id = lastGiven assignments slot.symbol Assignment.value? none :=
    binds.values_eq tabulated.tabulated member
  rw [held, lastGiven, tabulated.last_assignment perm member]
  rfl

/-- An expression without functions is ready for evaluation once its variables have numbers. -/
theorem exists_ready {compiled : Compiled} (tabulated : compiled.Tabulated)
    (noCall : compiled.root.functionSymbols = []) (interface : Interface κ)
    (policy : DivisionPolicy) (state : σ) {given : String → Value}
    (number : ∀ x, (given x).isNumber = true) {assignments : List (Assignment κ)}
    (perm : assignments.Perm (compiled.assignments given)) :
    ∃ s t, (Session.start compiled policy state).assign interface assignments = .ok s ∧
      s.validate = .ok t ∧ t.root = compiled.root ∧ t.policy = policy ∧
      ∀ slot ∈ compiled.root.variableSymbols, t.values slot.id = some (given slot.name) := by
  obtain ⟨s, assigned, binds, held⟩ := exists_assigned tabulated interface policy state number perm
  have root : s.root = compiled.root := binds.extends.root
  have slots : ∀ slot ∈ compiled.root.variableSymbols, s.values slot.id = some (given slot.name) :=
    fun slot member => held slot ((tabulated.mem_variables slot).mpr member)
  have bound : s.Bound := by
    constructor
    · intro slot member
      rw [root] at member
      rw [slots slot member]
      rfl
    · intro slot member
      rw [root, noCall] at member
      contradiction
  have sound := binds.sound (sound_start tabulated policy state)
  exact ⟨s, _, assigned, sound.validate_ok_iff.mpr ⟨bound, rfl⟩, root, binds.extends.policy, slots⟩

/-- Of an expression without calls whose variables have numbers, evaluating gives what the text
denotes. -/
theorem Exact.evaluate {Stands : Value → Rat → Prop} {policy : DivisionPolicy} {divides : Prop}
    (exact : Exact policy Stands divides)
    (success : Compiled.compile kind source name = .ok compiled)
    (numbers : ∀ (n : Grammar.Number) v, kind.read? (String.ofList n.text) = some v →
      Stands v n.rational)
    {d : Grammar.Derivation} (text : d.text = source.toList) (callFree : d.callees = [])
    {values : String → Rat} {given : String → Value} (number : ∀ x, (given x).isNumber = true)
    (stands : ∀ x, Stands (given x) (values x))
    (divided : divides ∨ (d.calculation values).divisors = []) (host : Host κ σ) (state : σ)
    {assignments : List (Assignment κ)} (perm : assignments.Perm (compiled.assignments given)) :
    ∃ s, (Session.start compiled policy state).assign host.toInterface assignments = .ok s ∧
      (d.calculation values).Gives Stands (s.evaluate host).1 := by
  have denotes := term?_of_compile success text
  have noCall : compiled.root.functionSymbols = [] :=
    (Grammar.respects_callees kind.read?).fold d.sum compiled.root denotes callFree
  obtain ⟨s, t, assigned, validated, root, samePolicy, held⟩ := exists_ready
    (tabulated_of_compile success) noCall host.toInterface policy state number perm
  have holds : t.Holds Stands values compiled.root :=
    fun slot member => ⟨_, held slot member, stands slot.name⟩
  obtain ⟨outcome, run, gives⟩ := (exact.respects host numbers t values).fold d.sum
    compiled.root denotes noCall holds divided
  refine ⟨s, assigned, ?_⟩
  rw [Session.evaluate_of_ok host validated, samePolicy, root, run]
  exact gives

theorem evaluate_fractions (host : Host κ σ) (state : σ)
    (success : Compiled.compile .fraction source name = .ok compiled) {d : Grammar.Derivation}
    (text : d.text = source.toList) (callFree : d.callees = []) (values : String → Rat)
    {assignments : List (Assignment κ)}
    (perm : assignments.Perm (compiled.assignments fun x => .fraction (values x))) :
    ∃ s, (Session.start compiled .checked state).assign host.toInterface assignments = .ok s ∧
      (s.evaluate host).1 =
        if 0 ∈ (d.calculation values).divisors then .error (.expression .divisionByZero)
        else .ok (.fraction (d.calculation values).value) := by
  obtain ⟨s, assigned, gives⟩ := exact_fraction.evaluate success
    (fun _ _ => Grammar.Number.eq_of_read?_fraction) text callFree (fun _ => rfl) (fun _ => rfl)
    (.inl trivial) host state perm
  refine ⟨s, assigned, ?_⟩
  unfold Calculation.Gives at gives
  split at gives
  · next zero => rw [if_pos zero, gives]
  · next nonzero =>
    obtain ⟨_, outcome, rfl⟩ := gives
    rw [if_neg nonzero, outcome]

theorem evaluate_integers (host : Host κ σ) (state : σ)
    (success : Compiled.compile .int source name = .ok compiled) {d : Grammar.Derivation}
    (text : d.text = source.toList) (callFree : d.callees = []) (policy : DivisionPolicy)
    (values : String → Int) (undivided : (d.calculation fun x => values x).divisors = [])
    {assignments : List (Assignment κ)}
    (perm : assignments.Perm (compiled.assignments fun x => .int (values x))) :
    ∃ s n, (Session.start compiled policy state).assign host.toInterface assignments = .ok s ∧
      (s.evaluate host).1 = .ok (.int n) ∧ (d.calculation fun x => values x).value = n := by
  obtain ⟨s, assigned, gives⟩ := (exact_int policy).evaluate success
    (fun _ _ => Grammar.Number.exists_of_read?_int) text callFree (fun _ => rfl)
    (fun x => ⟨values x, rfl, rfl⟩) (.inr undivided) host state perm
  rw [Calculation.Gives, undivided, if_neg List.not_mem_nil] at gives
  obtain ⟨_, outcome, n, rfl, value⟩ := gives
  exact ⟨s, n, assigned, outcome, value⟩

/-- What compiles with integers compiles with fractions. -/
theorem exists_compile_fraction (success : Compiled.compile .int source name = .ok compiled) :
    ∃ other, Compiled.compile .fraction source name = .ok other := by
  obtain ⟨d, text, convertible⟩ := compiles_iff.mp ⟨compiled, success⟩
  exact compiles_iff.mpr
    ⟨d, text, fun n member => Grammar.Number.isSome_read?_fraction (convertible n member)⟩

/-- Without calls, evaluating with fractions gives the rational number that the text denotes, and
fails exactly if a divisor in it is zero, as a division by zero. Without divisions, evaluating with
integers gives the integer that the text denotes, which is what evaluating the same text with
fractions gives. -/
theorem evaluate_exact (host : Host κ σ) (state : σ) {d : Grammar.Derivation}
    (text : d.text = source.toList) (callFree : d.callees = []) (name : String) :
    (∀ compiled, Compiled.compile .fraction source name = .ok compiled →
      ∀ (values : String → Rat) (assignments : List (Assignment κ)),
      assignments.Perm (compiled.assignments fun x => .fraction (values x)) →
      ∃ s, (Session.start compiled .checked state).assign host.toInterface assignments = .ok s ∧
        (s.evaluate host).1 =
          if 0 ∈ (d.calculation values).divisors then .error (.expression .divisionByZero)
          else .ok (.fraction (d.calculation values).value)) ∧
    (∀ compiled, Compiled.compile .int source name = .ok compiled → '/' ∉ source.toList →
      ∀ (policy : DivisionPolicy) (values : String → Int) (assignments : List (Assignment κ)),
      assignments.Perm (compiled.assignments fun x => .int (values x)) →
      ∃ s n, (Session.start compiled policy state).assign host.toInterface assignments = .ok s ∧
        (s.evaluate host).1 = .ok (.int n) ∧ (d.calculation fun x => values x).value = n ∧
        ∃ other, Compiled.compile .fraction source name = .ok other ∧
          ∀ others : List (Assignment κ),
          others.Perm (other.assignments fun x => .fraction (values x)) →
          ∃ t, (Session.start other .checked state).assign host.toInterface others = .ok t ∧
            (t.evaluate host).1 = .ok (.fraction n)) := by
  constructor
  · intro compiled success values assignments perm
    exact evaluate_fractions host state success text callFree values perm
  · intro compiled success noSlash policy values assignments perm
    have undivided := d.divisors_eq_nil (fun x => values x) (text ▸ noSlash)
    obtain ⟨s, n, assigned, outcome, value⟩ :=
      evaluate_integers host state success text callFree policy values undivided perm
    obtain ⟨other, otherSuccess⟩ := exists_compile_fraction success
    refine ⟨s, n, assigned, outcome, value, other, otherSuccess, ?_⟩
    intro others perm
    obtain ⟨t, assignedOther, same⟩ :=
      evaluate_fractions host state otherSuccess text callFree (fun x => values x) perm
    rw [undivided, if_neg List.not_mem_nil, value] at same
    exact ⟨t, assignedOther, same⟩

namespace Grammar

/-- The text of `x`, an operator and a number. -/
def Derivation.scaling (op : BinaryOperator) (multiplicative : op = .mul ∨ op = .div) (n : Number) :
    Derivation :=
  let blanks : Blanks := ⟨[], fun _ absent => absurd absent List.not_mem_nil⟩
  let x : Name := ⟨'x', [], rfl, fun _ absent => absurd absent List.not_mem_nil⟩
  ⟨.sum (.product (.var blanks x) (.factor blanks op multiplicative (.number blanks n) .noFactor))
    .noAddend, blanks⟩

theorem Derivation.calculation_scaling (op : BinaryOperator)
    (multiplicative : op = .mul ∨ op = .div) (n : Number) (values : String → Rat) :
    (scaling op multiplicative n).calculation values =
      ⟨op.rational (values "x") n.rational, if op = .div then [n.rational] else []⟩ :=
  rfl

end Grammar

theorem compile_scaling {op : BinaryOperator} {multiplicative : op = .mul ∨ op = .div}
    {n : Grammar.Number} (converted : kind.read? (String.ofList n.text) = some v)
    (text : (Grammar.Derivation.scaling op multiplicative n).text = source.toList) (name : String) :
    Compiled.compile kind source name = .ok ⟨source, .binary op (.var ⟨0, "x"⟩) (.literal v),
      ⟨[⟨0, "x"⟩], []⟩⟩ := by
  have denotes : (Grammar.Derivation.scaling op multiplicative n).term? kind.read? =
      some (.binary op (.var "x") (.literal v)) := by
    change Option.map (Tree.binary op (.var "x"))
      (Option.map Tree.literal (kind.read? (String.ofList n.text))) = _
    rw [converted]
    rfl
  exact compile_of_term? denotes text name

/-- Dividing by `2.5` with fractions, and multiplying by `2` with integers. -/
theorem evaluate_exact_of_scaling :
    let host := Callback.host Callback.shown
    let quotient : Compiled := ⟨"x/2.5", .binary .div (.var ⟨0, "x"⟩)
      (.literal (.fraction (5 / 2))), ⟨[⟨0, "x"⟩], []⟩⟩
    let product : Compiled := ⟨"x*2", .binary .mul (.var ⟨0, "x"⟩) (.literal (.int 2)),
      ⟨[⟨0, "x"⟩], []⟩⟩
    (∃ s, (Session.start quotient .checked .empty).assign host.toInterface
        [.var "x" (.fraction 1)] = .ok s ∧
      (s.evaluate host).1 = .ok (.fraction (2 / 5))) ∧
    ∃ s n, (Session.start product .unchecked .empty).assign host.toInterface
        [.var "x" (.int (-3))] = .ok s ∧ (s.evaluate host).1 = .ok (.int n) ∧ (-6 : Rat) = n := by
  intro host quotient product
  let two : Grammar.Digits := ⟨['2'], List.cons_ne_nil _ _, List.forall_mem_singleton.mpr rfl⟩
  have whole : Numeral.natOfDigits ['2'] = 2 := rfl
  constructor
  · let half : Grammar.Number := ⟨two, some ['5'], none, fun _ places =>
        Option.mem_some_iff.mp places ▸ List.forall_mem_singleton.mpr rfl⟩
    have text : (Grammar.Derivation.scaling .div (.inr rfl) half).text = "x/2.5".toList := rfl
    have places : Numeral.natOfDigits ['5'] = 5 := rfl
    have rational : half.rational = 5 / 2 := by
      norm_num [half, two, Grammar.Number.rational, Grammar.Number.places, Grammar.Number.power,
        whole, places]
    have limited : half.Limited := ⟨by decide, by decide, fun _ absent => by contradiction⟩
    have converted : NumberKind.fraction.read? (String.ofList half.text) =
        some (.fraction (5 / 2)) := by
      simp only [NumberKind.read?, half.read?_fraction, if_pos limited, rational]
      rfl
    obtain ⟨s, assigned, outcome⟩ := (evaluate_exact host .empty text rfl "<expr>").1 quotient
      (compile_scaling converted text "<expr>") (fun _ => 1) [.var "x" (.fraction 1)]
      (List.Perm.refl _)
    rw [Grammar.Derivation.calculation_scaling, rational, if_neg (by norm_num)] at outcome
    refine ⟨s, assigned, outcome.trans ?_⟩
    norm_num [BinaryOperator.rational]
  · let integer : Grammar.Number := ⟨two, none, none, fun _ absent => by contradiction⟩
    have text : (Grammar.Derivation.scaling .mul (.inl rfl) integer).text = "x*2".toList := rfl
    have read : readInt? (String.ofList integer.text) = some 2 :=
      integer.readInt?_eq_some.mpr ⟨⟨rfl, rfl⟩, by decide, rfl⟩
    have converted : NumberKind.int.read? (String.ofList integer.text) = some (.int 2) :=
      Option.map_eq_some_iff.mpr ⟨2, read, rfl⟩
    obtain ⟨s, n, assigned, outcome, value, _⟩ := (evaluate_exact host .empty text rfl "<expr>").2
      product (compile_scaling converted text "<expr>") (by decide) .unchecked (fun _ => -3)
      [.var "x" (.int (-3))] (List.Perm.refl _)
    have places : Numeral.natOfDigits [] = 0 := rfl
    have rational : integer.rational = 2 := by
      norm_num [integer, two, Grammar.Number.rational, Grammar.Number.places, Grammar.Number.power,
        whole, places]
    rw [Grammar.Derivation.calculation_scaling, rational] at value
    refine ⟨s, n, assigned, outcome, Eq.trans ?_ value⟩
    norm_num [BinaryOperator.rational]

end Formula
