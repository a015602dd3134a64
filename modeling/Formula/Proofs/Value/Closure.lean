import Formula.Proofs.Value.Typing

/-! What operators keep. A property of values that every operator keeps, with what is known of the
faults that operators raise on such values, is all that an evaluation depends on. There are three
of them: values without mappings, for which operators fail in ways of their own; numbers, for which
they do not use up memory; and numbers of one kind, which do not mismatch. -/
namespace Formula

/-- The outcome has one property if it is a value, and another one if it is a fault. -/
def Comes (V : α → Prop) (P : Fault → Prop) : Except Fault α → Prop
  | .ok a => V a
  | .error fault => P fault

/-- Operators keep a property of values, and the faults that they raise have another one. -/
structure ClosedUnder (policy : DivisionPolicy) (V : Value → Prop) (P : Fault → Prop) : Prop where
  negate : V v → Comes V P v.negate
  combine : V v → V w → Comes V P (Value.combine policy op v w)

theorem Comes.fails {V : α → Prop} {outcome : Except Fault α} (comes : Comes V P outcome) :
    Fails P outcome := by
  rintro fault rfl
  exact comes

theorem Comes.of_eq_ok {V : α → Prop} {outcome : Except Fault α} (comes : Comes V P outcome)
    (same : outcome = .ok a) : V a := by
  cases same
  exact comes

theorem Comes.imp {V : α → Prop} {Q : Fault → Prop} {outcome : Except Fault α}
    (comes : Comes V P outcome) (weaker : ∀ fault, P fault → Q fault) : Comes V Q outcome := by
  cases outcome with
  | ok a => exact comes
  | error fault => exact weaker fault comes

theorem Comes.map {V : α → Prop} {W : β → Prop} {f : α → β} {outcome : Except Fault α}
    (comes : Comes V P outcome) (each : ∀ a, V a → W (f a)) : Comes W P (outcome.map f) := by
  cases outcome with
  | ok a => exact each a comes
  | error fault => exact comes

theorem Fails.comes {V : α → Prop} {outcome : Except Fault α} (fails : Fails P outcome)
    (each : ∀ a, V a) : Comes V P outcome := by
  cases outcome with
  | ok a => exact each a
  | error fault => exact fails fault rfl

theorem Fails.comes_map {V : β → Prop} {f : α → β} {outcome : Except Fault α}
    (fails : Fails P outcome) (each : ∀ a, V (f a)) : Comes V P (outcome.map f) :=
  (fails.comes fun _ => trivial : Comes (fun _ => True) P outcome).map fun a _ => each a

theorem Comes.bind {V : α → Prop} {W : β → Prop} {outcome : Except Fault α}
    {next : α → Except Fault β} (first : Comes V P outcome)
    (second : ∀ a, V a → Comes W P (next a)) : Comes W P (outcome >>= next) := by
  cases outcome with
  | ok a => exact second a first
  | error fault => exact first

theorem Fails.comes_bind {W : β → Prop} {outcome : Except Fault α} {next : α → Except Fault β}
    (first : Fails P outcome) (second : ∀ a, Comes W P (next a)) : Comes W P (outcome >>= next) :=
  (first.comes fun _ => trivial : Comes (fun _ => True) P outcome).bind fun a _ => second a

/-- What the operators come to, where division follows a policy, if the policy covers the other
faults of quotients. -/
theorem comes_combine {V : Value → Prop} {P : Fault → Prop} {policy : DivisionPolicy}
    (outcome : Comes V (fun fault => op = .div ∧ fault.isInfiniteQuotient = true ∨ P fault)
      (Value.apply op v w))
    (infinities : ∀ x, V (.float x)) (reported : P (.expression .divisionByZero)) :
    Comes V P (Value.combine policy op v w) := by
  unfold Value.combine
  split
  · next division =>
    subst division
    unfold Value.divide
    generalize Value.apply .div v w = quotient at outcome ⊢
    cases quotient with
    | ok r =>
      cases policy with
      | checked =>
        dsimp only
        split
        · exact reported
        · exact outcome
      | unchecked => exact outcome
    | error fault =>
      cases policy with
      | checked =>
        dsimp only
        split
        · exact reported
        · next other => exact outcome.resolve_left fun covered => other covered.2
      | unchecked =>
        dsimp only
        split
        · obtain ⟨x, same⟩ := Value.exists_ieeeQuotient fault v w
          rw [same]
          exact infinities x
        · next other => exact outcome.resolve_left fun covered => other covered.2
  · next other => exact outcome.imp fun _ own => own.resolve_left fun covered => other covered.1

/-- The fault is one of an operation on values, or that of a division that is reported. -/
def Fault.IsOfOperators (fault : Fault) : Prop :=
  fault = .expression .divisionByZero ∨ fault.isOperational = true

theorem Value.WellTyped.comes (wellTyped : Value.WellTyped kind outcome) :
    Comes (Value.Arises kind) (·.isMismatch = false) outcome := by
  cases wellTyped with
  | ok arises => exact arises
  | error own => exact own

/-- Numbers of one kind do not mismatch; decimals only if divisions are checked. -/
theorem closedUnder_arises (checked : kind = .decimal → policy = .checked) :
    ClosedUnder policy (Value.Arises kind) (·.isMismatch = false) where
  negate arises := (Value.wellTyped_negate arises).comes
  combine left right := (Value.wellTyped_combine _ checked left right).comes

namespace Value

theorem comes_ofDecimal (outcome : Except Decimal.Condition Decimal) :
    Comes (·.isNumber = true) (· ≠ .memory) (ofDecimal outcome) := by
  cases outcome with
  | ok d => exact rfl
  | error condition => exact nofun

theorem comes_operation (op : BinaryOperator) (operands : Operands) :
    Comes (·.isNumber = true) (· ≠ .memory) (operands.apply op) := by
  cases operands with
  | ints a b =>
    cases op with
    | div =>
      have fails := fails_quotientOfInts a b
      simp only [Operands.apply, intOperation]
      cases outcome : quotientOfInts a b with
      | ok x => exact rfl
      | error fault =>
        rintro rfl
        exact Bool.false_ne_true (fails _ outcome)
    | _ => exact rfl
  | floats a b =>
    cases op with
    | div =>
      simp only [Operands.apply, floatOperation]
      split
      · rintro ⟨⟩
      · exact rfl
    | _ => exact rfl
  | decimals a b => cases op <;> exact comes_ofDecimal _
  | fractions a b =>
    cases op with
    | div =>
      simp only [Operands.apply, fractionOperation]
      split
      · rintro ⟨⟩
      · exact rfl
    | _ => exact rfl

/-- Only what can be repeated uses up memory, and numbers cannot. -/
theorem comes_apply (op : BinaryOperator) (left : v.isNumber = true) (right : w.isNumber = true) :
    Comes (·.isNumber = true) (· ≠ .memory) (apply op v w) := by
  unfold apply
  split
  · exact comes_operation op _
  · next failed =>
    rintro rfl
    exact Bool.false_ne_true (fails_operands failed _ rfl)
  · cases v <;> cases w <;> first
      | contradiction
      | cases op <;> simp [sequenceOperation, isSequence, Comes]

theorem comes_negate {v : Value} (number : v.isNumber = true) :
    Comes (·.isNumber = true) (· ≠ .memory) v.negate := by
  cases v with
  | int | float | fraction => exact rfl
  | decimal d => exact comes_ofDecimal d.negate
  | _ => contradiction

/-! ### Values without mappings -/

/-- No mapping is in the value. -/
inductive Unmapped : Value → Prop where
  | none : Unmapped .none
  | bool (b : Bool) : Unmapped (.bool b)
  | int (n : Int) : Unmapped (.int n)
  | float (x : Binary64) : Unmapped (.float x)
  | decimal (d : Decimal) : Unmapped (.decimal d)
  | fraction (q : Rat) : Unmapped (.fraction q)
  | text (s : String) : Unmapped (.text s)
  | list {items : List Value} (each : ∀ item ∈ items, Unmapped item) : Unmapped (.list items)
  | tuple {items : List Value} (each : ∀ item ∈ items, Unmapped item) : Unmapped (.tuple items)
  | shown (type : String) (texts : Option (String × String)) (holds : Bool) :
      Unmapped (.shown type texts holds)

theorem unmapped_of_isNumber {v : Value} (number : v.isNumber = true) : v.Unmapped := by
  cases v <;> first | contradiction | constructor

theorem comes_repeatItems (footprint : Footprint) (items : List α) (count : Int) :
    Comes (· ⊆ items) (·.isOperational = true) (repeatItems footprint items count) := by
  unfold repeatItems
  split
  · exact List.nil_subset items
  · split
    · exact rfl
    · intro item member
      obtain ⟨copy, among, inside⟩ := List.mem_flatten.mp member
      exact List.eq_of_mem_replicate among ▸ inside

theorem comes_repeated {v : Value} (unmapped : v.Unmapped) (count : Int) :
    Comes Unmapped (·.isOperational = true) (repeated v count) := by
  unfold repeated
  split
  · exact rfl
  · cases unmapped with
    | text s =>
      dsimp only
      split
      · exact rfl
      · exact (comes_repeatItems _ _ _).map fun _ _ => .text _
    | list each =>
      exact (comes_repeatItems _ _ _).map fun _ inside => .list fun item member =>
        each item (inside member)
    | tuple each =>
      exact (comes_repeatItems _ _ _).map fun _ inside => .tuple fun item member =>
        each item (inside member)
    | _ => exact rfl

/-- Sequences are made of the items of others. -/
theorem comes_sequenceOperation (op : BinaryOperator) (left : v.Unmapped) (right : w.Unmapped) :
    Comes Unmapped (·.isOperational = true) (sequenceOperation op v w) := by
  unfold sequenceOperation
  split
  · exact .text _
  · cases left with
    | list each =>
      cases right with
      | list others => exact .list (List.forall_mem_append.mpr ⟨each, others⟩)
  · cases left with
    | tuple each =>
      cases right with
      | tuple others => exact .tuple (List.forall_mem_append.mpr ⟨each, others⟩)
  · split
    · exact rfl
    · split
      · split
        · exact comes_repeated left _
        · exact rfl
      · split
        · split
          · exact comes_repeated right _
          · exact rfl
        · exact rfl

/-- What numbers come to has no mapping, and fails in the ways that are known. -/
theorem comes_unmapped {Q : Fault → Prop} {outcome : Except Fault Value}
    (numbers : Comes (·.isNumber = true) Q outcome) (fails : Fails P outcome) :
    Comes Unmapped P outcome := by
  cases outcome with
  | ok r => exact unmapped_of_isNumber numbers
  | error fault => exact fails fault rfl

theorem unmapped_apply (op : BinaryOperator) (left : v.Unmapped) (right : w.Unmapped) :
    Comes Unmapped (·.isOperational = true) (apply op v w) := by
  unfold apply
  split
  · exact comes_unmapped (comes_operation op _) (fails_operation op _).operational
  · next found => exact (fails_operands found).operational _ rfl
  · exact comes_sequenceOperation op left right

theorem unmapped_negate (v : Value) : Comes Unmapped (·.isOperational = true) v.negate := by
  cases v with
  | decimal d => exact comes_unmapped (comes_ofDecimal d.negate) (fails_negate (.decimal d))
  | bool | int | float | fraction => exact unmapped_of_isNumber rfl
  | none | text | list | tuple | mapping | shown => exact rfl

end Value

theorem closedUnder_operators (policy : DivisionPolicy) :
    ClosedUnder policy Value.Unmapped Fault.IsOfOperators where
  negate _ := (Value.unmapped_negate _).imp fun _ => .inr
  combine left right := by
    apply comes_combine ((Value.unmapped_apply _ left right).imp fun _ own => .inr (.inr own))
    · exact .float
    · exact .inl rfl

theorem closedUnder_isNumber (policy : DivisionPolicy) :
    ClosedUnder policy (·.isNumber = true) (· ≠ .memory) where
  negate := Value.comes_negate
  combine left right := by
    apply comes_combine ((Value.comes_apply _ left right).imp fun _ => .inr)
    · exact fun _ => rfl
    · exact nofun

end Formula
