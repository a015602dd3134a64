import Formula.Proofs.Value.Closure

/-! Failures of arithmetic that division policies do not cover. In an expression of one number kind,
where a binary64 number may stand beside those of the kind, operators on integers and on fractions
fail for one that is too great to be made a binary64 number, and those on decimals for the
conditions of decimal arithmetic other than a division by zero. Operators on binary64 numbers do
not fail. -/
namespace Formula

namespace Decimal
variable {x y : Decimal}

theorem fit_ne_divisionByZero (p : Precision) (negative : Bool) (coefficient : Nat)
    (exponent : Int) : fit p negative coefficient exponent ≠ .error .divisionByZero := by
  unfold fit
  dsimp only
  split_ifs <;> exact nofun

theorem nanResult?_ne_divisionByZero (found : nanResult? x y = some result) :
    result ≠ .error .divisionByZero := by
  unfold nanResult? at found
  split at found
  all_goals
    rintro rfl
    cases found

theorem add_ne_divisionByZero (x y : Decimal) : x.add y ≠ .error .divisionByZero := by
  unfold add
  split
  · next found => exact nanResult?_ne_divisionByZero found
  · split
    · split <;> exact nofun
    · exact nofun
    · exact nofun
    · dsimp only
      split <;> exact fit_ne_divisionByZero _ _ _ _
    · exact nofun

theorem sub_ne_divisionByZero (x y : Decimal) : x.sub y ≠ .error .divisionByZero := by
  unfold sub
  split
  · next found => exact nanResult?_ne_divisionByZero found
  · exact add_ne_divisionByZero _ _

theorem mul_ne_divisionByZero (x y : Decimal) : x.mul y ≠ .error .divisionByZero := by
  unfold mul
  split
  · next found => exact nanResult?_ne_divisionByZero found
  · dsimp only
    split
    · split <;> exact nofun
    · split
      · exact fit_ne_divisionByZero _ _ _ _
      · exact nofun

theorem negate_ne_divisionByZero (x : Decimal) : x.negate ≠ .error .divisionByZero := by
  unfold negate rounded
  split
  · exact nofun
  · exact nofun
  · exact nofun
  · exact fit_ne_divisionByZero _ _ _ _

end Decimal

/-- The fault is one that operators on numbers of the kind, or on such a number and a binary64
number, fail with although the policy on division does not cover it. -/
inductive Fault.Slips : NumberKind → Fault → Prop where
  | int : Slips .int (.overflow .integer)
  | fraction : Slips .fraction (.overflow .quotient)
  | decimal (other : condition ≠ .divisionByZero) : Slips .decimal (.decimal condition)

namespace Value

/-- The value is a number of the kind or a binary64 number. -/
inductive Occurs : NumberKind → Value → Prop where
  | int (n : Int) : Occurs .int (.int n)
  | decimal (d : Decimal) : Occurs .decimal (.decimal d)
  | fraction (q : Rat) : Occurs .fraction (.fraction q)
  | float (x : Binary64) : Occurs kind (.float x)

theorem occurs_of_kind (own : kind? v = some kind) : Occurs kind v := by
  cases v <;> cases own
  · exact .int _
  · exact .float _
  · exact .decimal _
  · exact .fraction _

/-- The fault is covered by the policy on division, or it slips through. -/
def Expected (kind : NumberKind) (op : BinaryOperator) (fault : Fault) : Prop :=
  op = .div ∧ fault.isInfiniteQuotient = true ∨ fault.Slips kind

theorem comes_decimal_of (other : outcome ≠ .error .divisionByZero) :
    Comes (Occurs .decimal) (Fault.Slips .decimal) (ofDecimal outcome) := by
  cases outcome with
  | ok d => exact .decimal d
  | error condition =>
    refine .decimal ?_
    rintro rfl
    contradiction

theorem comes_decimals (op : BinaryOperator) (d e : Decimal) :
    Comes (Occurs .decimal) (Expected .decimal op) (decimalOperation op d e) := by
  cases op with
  | add => exact (comes_decimal_of (d.add_ne_divisionByZero e)).imp fun _ => .inr
  | sub => exact (comes_decimal_of (d.sub_ne_divisionByZero e)).imp fun _ => .inr
  | mul => exact (comes_decimal_of (d.mul_ne_divisionByZero e)).imp fun _ => .inr
  | div =>
    rw [decimalOperation]
    cases d.div e with
    | ok quotient => exact .decimal quotient
    | error condition =>
      by_cases zero : condition = .divisionByZero
      · subst zero
        exact .inl ⟨rfl, rfl⟩
      · exact .inr (.decimal zero)

theorem comes_ints (op : BinaryOperator) (n m : Int) :
    Comes (Occurs .int) (Expected .int op) (intOperation op n m) := by
  cases op with
  | div =>
    rw [intOperation]
    cases outcome : quotientOfInts n m with
    | ok x => exact .float x
    | error fault =>
      rcases quotientOfInts_eq_error outcome with rfl | rfl <;> exact .inl ⟨rfl, rfl⟩
  | _ => exact .int _

theorem comes_fractions (op : BinaryOperator) (q r : Rat) :
    Comes (Occurs .fraction) (Expected .fraction op) (fractionOperation op q r) := by
  cases op with
  | div =>
    rw [fractionOperation]
    split
    · exact .inl ⟨rfl, rfl⟩
    · exact .fraction _
  | _ => exact .fraction _

theorem comes_floats (kind : NumberKind) (op : BinaryOperator) (x y : Binary64) :
    Comes (Occurs kind) (Expected kind op) (floatOperation op x y) := by
  cases op with
  | div =>
    rw [floatOperation]
    split
    · exact .inl ⟨rfl, rfl⟩
    · exact .float _
  | _ => exact .float _

/-- An operator on values of which one is made a binary64 number first. -/
theorem comes_apply_of_map {outcome : Except Fault Binary64} {f : Binary64 → Operands}
    (same : apply op v w = result) (shared : operands? v w = some (outcome.map f))
    (first : Fails (Fault.Slips kind) outcome)
    (second : ∀ x, Comes (Occurs kind) (Expected kind op) ((f x).apply op)) :
    Comes (Occurs kind) (Expected kind op) result := by
  rw [← same, apply, shared]
  cases outcome with
  | ok x => exact second x
  | error fault => exact .inr (first fault rfl)

theorem fails_floatOfInt_slips (n : Int) : Fails (Fault.Slips .int) (floatOfInt n) := by
  intro fault failed
  rw [floatOfInt_eq_error failed]
  exact .int

theorem fails_floatOfFraction_slips (q : Rat) :
    Fails (Fault.Slips .fraction) (floatOfFraction q) := by
  intro fault failed
  rw [floatOfFraction, quotientOfInts, if_neg (Int.natCast_ne_zero.mpr q.den_nz)] at failed
  dsimp only at failed
  split at failed
  · rw [← Except.error.inj failed]
    exact .fraction
  · cases failed

/-- Decimals do not mix with binary64 numbers. -/
theorem apply_decimal_float (op : BinaryOperator) (d : Decimal) (y : Binary64) : ∃ cause,
    apply op (.decimal d) (.float y) = .error (.mismatch cause) := by
  cases op <;> exact ⟨_, rfl⟩

theorem apply_float_decimal (op : BinaryOperator) (x : Binary64) (e : Decimal) : ∃ cause,
    apply op (.float x) (.decimal e) = .error (.mismatch cause) := by
  cases op <;> exact ⟨_, rfl⟩

/-- On the values that can occur in an expression, failures of arithmetic are expected ones. -/
theorem comes_apply_occurs (op : BinaryOperator) (left : Occurs kind v) (right : Occurs kind w) :
    Comes (Occurs kind) (fun fault => op = .div ∧ fault.isInfiniteQuotient = true ∨
      (fault.isComputational = true → fault.Slips kind)) (apply op v w) := by
  have expected {outcome : Except Fault Value}
      (comes : Comes (Occurs kind) (Expected kind op) outcome) :=
    comes.imp fun fault own => own.imp_right fun slips (_ : fault.isComputational = true) => slips
  -- The values are not to be computed with, which a goal about the operator would lead to.
  generalize same : apply op v w = result
  cases left with
  | int n =>
    cases right with
    | int m => exact expected (same ▸ comes_ints op n m)
    | float y =>
      have shared : operands? (.int n) (.float y) = some ((floatOfInt n).map (.floats · y)) := rfl
      have floats := comes_floats .int op
      exact expected (comes_apply_of_map same shared (fails_floatOfInt_slips n) (floats · y))
  | decimal d =>
    cases right with
    | decimal e => exact expected (same ▸ comes_decimals op d e)
    | float y =>
      obtain ⟨cause, mismatch⟩ := apply_decimal_float op d y
      rw [← same, mismatch]
      exact .inr nofun
  | fraction q =>
    cases right with
    | fraction r => exact expected (same ▸ comes_fractions op q r)
    | float y =>
      have shared : operands? (.fraction q) (.float y) =
        some ((floatOfFraction q).map (.floats · y)) := rfl
      have floats := comes_floats .fraction op
      exact expected (comes_apply_of_map same shared (fails_floatOfFraction_slips q) (floats · y))
  | float x =>
    cases right with
    | int m =>
      have shared : operands? (.float x) (.int m) = some ((floatOfInt m).map (.floats x ·)) := rfl
      have floats := comes_floats .int op
      exact expected (comes_apply_of_map same shared (fails_floatOfInt_slips m) (floats x ·))
    | decimal e =>
      obtain ⟨cause, mismatch⟩ := apply_float_decimal op x e
      rw [← same, mismatch]
      exact .inr nofun
    | fraction r =>
      have shared : operands? (.float x) (.fraction r) =
        some ((floatOfFraction r).map (.floats x ·)) := rfl
      have floats := comes_floats .fraction op
      exact expected (comes_apply_of_map same shared (fails_floatOfFraction_slips r) (floats x ·))
    | float y => exact expected (same ▸ comes_floats _ op x y)

theorem comes_negate_occurs (occurs : Occurs kind v) :
    Comes (Occurs kind) (Fault.Slips kind) v.negate := by
  cases occurs with
  | int n => exact .int _
  | decimal d => exact comes_decimal_of d.negate_ne_divisionByZero
  | fraction q => exact .fraction _
  | float x => exact .float _

end Value

/-- In expressions of one kind, also with binary64 numbers, failures of arithmetic slip through. -/
theorem closedUnder_occurs (kind : NumberKind) (policy : DivisionPolicy) :
    ClosedUnder policy (Value.Occurs kind)
      fun fault => fault.isComputational = true → fault.Slips kind where
  negate occurs := (Value.comes_negate_occurs occurs).imp fun _ slips _ => slips
  combine left right := by
    apply comes_combine (Value.comes_apply_occurs _ left right)
    · exact .float
    · exact nofun

end Formula
