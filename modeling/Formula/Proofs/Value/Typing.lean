import Formula.Proofs.Value.ZeroDivision

/-! Which values arise in expressions of a number kind. They are the numbers of the kind and, but
for decimals, binary64 numbers, which quotients of integers are and the infinities that stand for
refused quotients. Every operator can be applied to any two of them, and gives another one or fails
in a way of its own. With decimals this holds only as long as no infinity stands for a quotient,
because decimals do not mix with binary64 numbers. -/
namespace Formula

/-- The fault is a mismatch of types. -/
def Fault.isMismatch : Fault → Bool
  | mismatch _ => true
  | _ => false

namespace Value

/-- The value can arise in an expression of the kind. -/
inductive Arises : NumberKind → Value → Prop where
  | int (n : Int) : Arises .int (.int n)
  | decimal (d : Decimal) : Arises .decimal (.decimal d)
  | fraction (q : Rat) : Arises .fraction (.fraction q)
  | float (different : kind ≠ .decimal) (x : Binary64) : Arises kind (.float x)

theorem arises_of_kind (own : kind? v = some kind) : Arises kind v := by
  cases v <;> cases own
  · exact .int _
  · exact .float (by decide) _
  · exact .decimal _
  · exact .fraction _

/-- The outcome is a value that can arise, or a fault that is no mismatch. -/
inductive WellTyped (kind : NumberKind) : Except Fault Value → Prop where
  | ok : Arises kind v → WellTyped kind (.ok v)
  | error : fault.isMismatch = false → WellTyped kind (.error fault)

/-- No fault of the outcome is a mismatch. -/
def Matches (outcome : Except Fault α) : Prop :=
  ∀ fault, outcome = .error fault → fault.isMismatch = false

theorem Matches.map {outcome : Except Fault α} {f : α → Value} (first : Matches outcome)
    (second : ∀ a, Arises kind (f a)) : WellTyped kind (outcome.map f) := by
  cases outcome with
  | ok a => exact .ok (second a)
  | error fault => exact .error (first fault rfl)

theorem matches_quotientOfInts (n d : Int) : Matches (quotientOfInts n d) := by
  intro fault failed
  rcases quotientOfInts_eq_error failed with rfl | rfl <;> rfl

theorem matches_floatOfInt (n : Int) : Matches (floatOfInt n) := by
  intro fault failed
  rw [floatOfInt_eq_error failed]
  rfl

theorem wellTyped_floats (different : kind ≠ .decimal) (op : BinaryOperator) (x y : Binary64) :
    WellTyped kind (floatOperation op x y) := by
  cases op with
  | div =>
    rw [floatOperation]
    split
    · exact .error rfl
    · exact .ok (.float different _)
  | _ => exact .ok (.float different _)

theorem wellTyped_ofDecimal (outcome : Except Decimal.Condition Decimal) :
    WellTyped .decimal (ofDecimal outcome) := by
  cases outcome with
  | ok d => exact .ok (.decimal d)
  | error condition => exact .error rfl

/-- An operator on values of which one is converted first. -/
theorem wellTyped_apply_of_map (op : BinaryOperator) {outcome : Except Fault α} {f : α → Operands}
    (shared : operands? v w = some (outcome.map f)) (first : Matches outcome)
    (second : ∀ a, WellTyped kind ((f a).apply op)) : WellTyped kind (apply op v w) := by
  rw [apply, shared]
  cases outcome with
  | ok a => exact second a
  | error fault => exact .error (first fault rfl)

theorem wellTyped_ints (op : BinaryOperator) (n m : Int) :
    WellTyped .int (intOperation op n m) := by
  cases op with
  | div => exact (matches_quotientOfInts n m).map fun x => .float (by decide) x
  | _ => exact .ok (.int _)

theorem wellTyped_fractions (op : BinaryOperator) (q r : Rat) :
    WellTyped .fraction (fractionOperation op q r) := by
  cases op with
  | div =>
    rw [fractionOperation]
    split
    · exact .error rfl
    · exact .ok (.fraction _)
  | _ => exact .ok (.fraction _)

/-- Every operator can be applied to values that arise in one expression. -/
theorem wellTyped_apply (op : BinaryOperator) (left : Arises kind v) (right : Arises kind w) :
    WellTyped kind (apply op v w) := by
  cases left with
  | int n =>
    cases right with
    | int m => exact wellTyped_ints op n m
    | float different y =>
      exact wellTyped_apply_of_map op rfl (matches_floatOfInt n)
        fun x => wellTyped_floats different op x y
  | decimal d =>
    cases right with
    | decimal e => cases op <;> exact wellTyped_ofDecimal _
    | float different => exact absurd rfl different
  | fraction q =>
    cases right with
    | fraction r => exact wellTyped_fractions op q r
    | float different y =>
      exact wellTyped_apply_of_map op rfl (matches_quotientOfInts q.num q.den)
        fun x => wellTyped_floats different op x y
  | float different x =>
    cases right with
    | int m =>
      exact wellTyped_apply_of_map op rfl (matches_floatOfInt m)
        fun y => wellTyped_floats different op x y
    | decimal => exact absurd rfl different
    | fraction r =>
      exact wellTyped_apply_of_map op rfl (matches_quotientOfInts r.num r.den)
        fun y => wellTyped_floats different op x y
    | float _ y => exact wellTyped_floats different op x y

theorem wellTyped_negate (arises : Arises kind v) : WellTyped kind v.negate := by
  cases arises with
  | int n => exact .ok (.int _)
  | decimal d => exact wellTyped_ofDecimal d.negate
  | fraction q => exact .ok (.fraction _)
  | float different x => exact .ok (.float different _)

theorem exists_ieeeQuotient (fault : Fault) (left right : Value) :
    ∃ x, ieeeQuotient fault left right = float x := by
  unfold ieeeQuotient signedInfinity
  split <;> exact ⟨_, rfl⟩

/-- Division under a policy, which with decimals has to be the checked one. -/
theorem wellTyped_divide (checked : kind = .decimal → policy = .checked) (left : Arises kind v)
    (right : Arises kind w) : WellTyped kind (divide policy v w) := by
  have quotient := wellTyped_apply .div left right
  unfold divide
  generalize apply .div v w = outcome at quotient ⊢
  cases quotient with
  | @ok result arises =>
    cases policy with
    | checked =>
      dsimp only
      split
      · exact .error rfl
      · exact .ok arises
    | unchecked => exact .ok arises
  | @error fault own =>
    cases policy with
    | checked =>
      dsimp only
      split
      · exact .error rfl
      · exact .error own
    | unchecked =>
      dsimp only
      split
      · have different : kind ≠ .decimal := fun decimal => nomatch checked decimal
        obtain ⟨x, same⟩ := exists_ieeeQuotient fault v w
        rw [same]
        exact .ok (.float different x)
      · exact .error own

theorem wellTyped_combine (op : BinaryOperator) (checked : kind = .decimal → policy = .checked)
    (left : Arises kind v) (right : Arises kind w) : WellTyped kind (combine policy op v w) := by
  unfold combine
  split
  · exact wellTyped_divide checked left right
  · exact wellTyped_apply op left right

end Value

/-- Numerals of a kind are numbers of the kind. -/
theorem NumberKind.kind?_of_read? {kind : NumberKind} (converted : kind.read? text = some v) :
    v.kind? = some kind := by
  cases kind <;>
  · obtain ⟨number, _, rfl⟩ := Option.map_eq_some_iff.mp converted
    rfl

end Formula
