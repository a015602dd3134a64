import Formula.Value.Division

/-! The faults of operators. An operator fails for operands of the wrong types, for a value or a
result out of bounds, or for want of memory. Those on numbers of one kind fail for values and
results out of bounds only, and no operator fails as a symbol without a binding does. -/
namespace Formula

namespace Fault

/-- The fault says that a symbol has no binding. -/
def isAboutSymbol : Fault → Bool
  | .expression (.uninitializedVariable _) | .expression (.uninitializedFunction ..)
  | .expression (.unboundVariable _) | .expression (.unboundFunction ..) => true
  | _ => false

/-- The fault is one of an operation on values: it is about their types, about a value or a result
that is out of bounds, or about memory. -/
def isOperational : Fault → Bool
  | .mismatch _ | .memory => true
  | fault => fault.isComputational

theorem isOperational_of_isComputational {fault : Fault} (own : fault.isComputational = true) :
    fault.isOperational = true := by
  cases fault <;> first | rfl | exact own

theorem isAboutSymbol_of_isOperational {fault : Fault} (own : fault.isOperational = true) :
    fault.isAboutSymbol = false := by
  cases fault <;> first | rfl | contradiction

end Fault

/-- If the outcome is a fault, the fault has the property. -/
def Fails (P : Fault → Prop) (outcome : Except Fault α) : Prop :=
  ∀ fault, outcome = .error fault → P fault

/-- The outcome is no fault about a symbol. -/
def Computes (outcome : Except Fault α) : Prop :=
  ∀ fault, outcome = .error fault → fault.isAboutSymbol = false

section
variable {P : Fault → Prop}

theorem fails_ok (a : α) : Fails P (.ok a) := by
  intro fault failed
  contradiction

theorem fails_error (own : P fault) : Fails P (.error fault : Except Fault α) := by
  intro other failed
  cases failed
  exact own

theorem Fails.imp {Q : Fault → Prop} {outcome : Except Fault α} (fails : Fails P outcome)
    (weaker : ∀ fault, P fault → Q fault) : Fails Q outcome :=
  fun fault failed => weaker fault (fails fault failed)

theorem Fails.map {outcome : Except Fault α} (fails : Fails P outcome) (f : α → β) :
    Fails P (outcome.map f) := by
  cases outcome with
  | ok a => exact fails_ok (f a)
  | error fault => exact fails_error (fails fault rfl)

theorem fails_bind {outcome : Except Fault α} {next : α → Except Fault β} (first : Fails P outcome)
    (second : ∀ a, Fails P (next a)) : Fails P (outcome >>= next) := by
  cases outcome with
  | ok a => exact second a
  | error fault => exact fails_error (first fault rfl)

theorem fails_foldlM {f : β → α → Except Fault β} (step : ∀ b a, Fails P (f b a)) (as : List α)
    (b : β) : Fails P (as.foldlM f b) := by
  induction as generalizing b with
  | nil => exact fails_ok b
  | cons a as ih =>
    rw [List.foldlM_cons]
    exact fails_bind (step b a) ih

theorem fails_mapM {f : α → Except Fault β} {as : List α} (each : ∀ a ∈ as, Fails P (f a)) :
    Fails P (as.mapM f) := by
  induction as with
  | nil => exact fails_ok []
  | cons a as ih =>
    obtain ⟨first, others⟩ := List.forall_mem_cons.mp each
    rw [List.mapM_cons]
    exact fails_bind first fun b => fails_bind (ih others) fun bs => fails_ok (b :: bs)

end

/-- An operation on values is no fault about a symbol. -/
theorem Fails.computes {outcome : Except Fault α} (fails : Fails (·.isOperational) outcome) :
    Computes outcome :=
  fails.imp fun _ => Fault.isAboutSymbol_of_isOperational

theorem Fails.operational {outcome : Except Fault α} (fails : Fails (·.isComputational) outcome) :
    Fails (·.isOperational) outcome :=
  fails.imp fun _ => Fault.isOperational_of_isComputational

theorem fails_withinDigits (text : Option α) : Fails (·.isComputational) (withinDigits text) := by
  cases text with
  | some text => exact fails_ok text
  | none => exact fails_error rfl

theorem computes_withinDigits (text : Option α) : Computes (withinDigits text) :=
  (fails_withinDigits text).operational.computes

namespace Value

/-! ### Numbers -/

theorem fails_ofDecimal (outcome : Except Decimal.Condition Decimal) :
    Fails (·.isComputational) (ofDecimal outcome) := by
  cases outcome with
  | ok d => exact fails_ok _
  | error condition => exact fails_error rfl

/-- A quotient of integers fails for a zero divisor or by an overflow only. -/
theorem quotientOfInts_eq_error (failed : quotientOfInts n d = .error fault) :
    fault = .zeroDivision .integer ∨ fault = .overflow .quotient := by
  unfold quotientOfInts at failed
  split at failed
  · exact .inl (Except.error.inj failed).symm
  · dsimp only at failed
    split at failed
    · exact .inr (Except.error.inj failed).symm
    · cases failed

theorem floatOfInt_eq_error (failed : floatOfInt n = .error fault) :
    fault = .overflow .integer := by
  unfold floatOfInt at failed
  dsimp only at failed
  split at failed
  · exact (Except.error.inj failed).symm
  · cases failed

theorem fails_quotientOfInts (n d : Int) : Fails (·.isComputational) (quotientOfInts n d) := by
  intro fault failed
  rcases quotientOfInts_eq_error failed with rfl | rfl <;> rfl

theorem fails_floatOfInt (n : Int) : Fails (·.isComputational) (floatOfInt n) := by
  intro fault failed
  rw [floatOfInt_eq_error failed]
  rfl

theorem fails_floatOfFraction (q : Rat) : Fails (·.isComputational) (floatOfFraction q) :=
  fails_quotientOfInts q.num q.den

theorem fails_floatOperation (op : BinaryOperator) (a b : Binary64) :
    Fails (·.isComputational) (floatOperation op a b) := by
  cases op with
  | div =>
    rw [floatOperation]
    split
    · exact fails_error rfl
    · exact fails_ok _
  | _ => exact fails_ok _

theorem fails_operation (op : BinaryOperator) (operands : Operands) :
    Fails (·.isComputational) (operands.apply op) := by
  cases operands with
  | ints a b =>
    cases op with
    | div => exact (fails_quotientOfInts a b).map _
    | _ => exact fails_ok _
  | floats a b => exact fails_floatOperation op a b
  | decimals a b => cases op <;> exact fails_ofDecimal _
  | fractions a b =>
    cases op with
    | div =>
      simp only [Operands.apply, fractionOperation]
      split
      · exact fails_error rfl
      · exact fails_ok _
    | _ => exact fails_ok _

/-- Bringing two numbers into one arithmetic may fail, and does so for their size only. -/
theorem fails_operands (found : operands? left right = some outcome) :
    Fails (·.isComputational) outcome := by
  unfold operands? at found
  split at found
  case h_2 | h_3 => exact Option.some.inj found ▸ (fails_floatOfInt _).map _
  case h_11 | h_12 => exact Option.some.inj found ▸ (fails_floatOfFraction _).map _
  case h_13 => contradiction
  all_goals exact Option.some.inj found ▸ fails_ok _

/-! ### Values -/

theorem fails_repeatItems (footprint : Footprint) (items : List α) (count : Int) :
    Fails (·.isOperational) (repeatItems footprint items count) := by
  unfold repeatItems
  split
  · exact fails_ok _
  · split
    · exact fails_error rfl
    · exact fails_ok _

theorem fails_repeated (sequence : Value) (count : Int) :
    Fails (·.isOperational) (repeated sequence count) := by
  unfold repeated
  split
  · exact fails_error rfl
  · split
    · split
      · exact fails_error rfl
      · exact (fails_repeatItems _ _ _).map _
    · exact (fails_repeatItems _ _ _).map _
    · exact (fails_repeatItems _ _ _).map _
    · exact fails_error rfl

theorem fails_sequenceOperation (op : BinaryOperator) (left right : Value) :
    Fails (·.isOperational) (sequenceOperation op left right) := by
  unfold sequenceOperation
  split
  · exact fails_ok _
  · exact fails_ok _
  · exact fails_ok _
  · split
    · exact fails_error rfl
    · split
      · split
        · exact fails_repeated _ _
        · exact fails_error rfl
      · split
        · split
          · exact fails_repeated _ _
          · exact fails_error rfl
        · exact fails_error rfl

theorem fails_apply (op : BinaryOperator) (left right : Value) :
    Fails (·.isOperational) (apply op left right) := by
  unfold apply
  split
  · exact (fails_operation op _).operational
  · next found => exact fails_error ((fails_operands found).operational _ rfl)
  · exact fails_sequenceOperation op left right

theorem fails_negate (value : Value) : Fails (·.isOperational) value.negate := by
  unfold negate
  split
  · exact fails_ok _
  · exact fails_ok _
  · exact (fails_ofDecimal _).operational
  · exact fails_ok _
  · exact fails_error rfl

/-- Under a policy a division fails as the operator does, or is reported as one by zero. -/
theorem fails_divide {P : Fault → Prop} {policy : DivisionPolicy}
    (quotient : Fails P (apply .div left right)) (reported : P (.expression .divisionByZero)) :
    Fails P (divide policy left right) := by
  unfold divide
  split
  · split
    · exact fails_error reported
    · exact fails_ok _
  · next fault failed =>
    split
    · exact fails_error reported
    · exact fails_error (quotient fault failed)
  · exact fails_ok _
  · next fault failed =>
    split
    · exact fails_ok _
    · exact fails_error (quotient fault failed)

theorem fails_combine {P : Fault → Prop} {policy : DivisionPolicy}
    (outcome : Fails P (apply op left right)) (reported : P (.expression .divisionByZero)) :
    Fails P (combine policy op left right) := by
  unfold combine
  split
  · next division =>
    subst division
    exact fails_divide outcome reported
  · exact outcome

theorem computes_combine (policy : DivisionPolicy) (op : BinaryOperator) (left right : Value) :
    Computes (combine policy op left right) :=
  fails_combine (fails_apply op left right).computes rfl

theorem computes_negate (value : Value) : Computes value.negate :=
  (fails_negate value).computes

end Value

end Formula
