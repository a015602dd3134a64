import Formula.Callback.Script
import Formula.Proofs.Grammar.Automaton
import Formula.Proofs.Session.Evaluation

/-! Division by zero. For two finite numbers of one kind it is decided by the policy, whatever the
kind: checked it is an error of the expression, unchecked it gives `nan` or an infinity. The one
exception are decimals, where a zero divided by zero is an undefined operation rather than a
division by zero, and as such escapes both policies. -/
namespace Formula

namespace Value

/-- The kind of number that a value is. -/
def kind? : Value → Option NumberKind
  | int _ => some .int
  | float _ => some .float
  | decimal _ => some .decimal
  | fraction _ => some .fraction
  | _ => .none

/-- The number is neither infinite nor not a number. -/
def isFinite : Value → Bool
  | int _ | fraction _ => true
  | float x => x.isFinite
  | decimal (.finite ..) => true
  | _ => false

/-- The number has a negative sign, as a negative zero has. -/
def isNegative : Value → Bool
  | int n => n < 0
  | float x => x.isNegative
  | decimal d => d.isNegative
  | fraction q => q.num < 0
  | _ => false

theorem isBelowZero_of_nonzero (finite : isFinite v = true) (nonzero : v.isZero = false) :
    v.isBelowZero = v.isNegative := by
  match v with
  | int n | fraction q => rfl
  | float x =>
    have nonzero : x.isZero = false := nonzero
    simp [isBelowZero, isNegative, nonzero]
  | decimal (.finite negative coefficient exponent) =>
    have nonzero : (Decimal.finite negative coefficient exponent).isZero = false := nonzero
    simp [isBelowZero, isNegative, nonzero, Decimal.isNaN]

theorem isNegative_of_zero (finite : isFinite v = true) (zero : v.isZero = true) :
    (v.isBelowZero || v.isNegativeZero) = v.isNegative := by
  match v with
  | int n =>
    obtain rfl : n = 0 := by simpa [isZero] using zero
    rfl
  | fraction q =>
    have zero : q.num = 0 := by simpa [isZero] using zero
    simp [isBelowZero, isNegativeZero, isNegative, zero]
  | float x =>
    have zero : x.isZero = true := zero
    simp [isBelowZero, isNegativeZero, isNegative, zero]
  | decimal (.finite negative coefficient exponent) =>
    have zero : (Decimal.finite negative coefficient exponent).isZero = true := zero
    simp [isBelowZero, isNegativeZero, isNegative, zero]

theorem isFloatNaN_of_isFinite (finite : isFinite v = true) : v.isFloatNaN = false := by
  cases v with
  | float x => cases x <;> first | contradiction | rfl
  | _ => rfl

theorem ieeeQuotient_zero (finiteLeft : isFinite left = true) (finiteRight : isFinite right = true)
    (zero : right.isZero = true) (byZero : fault.isZeroDivision = true) :
    ieeeQuotient fault left right =
      if left.isZero then float .nan
      else float (.infinity (left.isNegative != right.isNegative)) := by
  unfold ieeeQuotient signedInfinity
  rw [byZero, isFloatNaN_of_isFinite finiteLeft, isNegative_of_zero finiteRight zero]
  cases nonzero : left.isZero with
  | true => rfl
  | false => rw [isBelowZero_of_nonzero finiteLeft nonzero]; rfl

/-- What dividing by zero is refused with: an undefined operation for two decimal zeros, and
otherwise a division by zero. -/
theorem apply_div_zero (leftKind : left.kind? = some kind) (rightKind : right.kind? = some kind)
    (finiteLeft : isFinite left = true) (finiteRight : isFinite right = true)
    (zero : right.isZero = true) : ∃ fault, apply .div left right = .error fault ∧
      if kind = .decimal ∧ left.isZero = true then fault = .decimal .divisionUndefined
      else fault.isZeroDivision = true := by
  match left, right with
  | int a, int b =>
    cases leftKind
    obtain rfl : b = 0 := by simpa [isZero] using zero
    exact ⟨.zeroDivision .integer, rfl, rfl⟩
  | float x, float y =>
    cases leftKind
    exact ⟨.zeroDivision .float, if_pos zero, rfl⟩
  | fraction q, fraction r =>
    cases leftKind
    have zero : r.num = 0 := by simpa [isZero] using zero
    exact ⟨.zeroDivision (.fraction q.num.sign), if_pos zero, rfl⟩
  | decimal (.finite a c e), decimal (.finite b d f) =>
    cases leftKind
    obtain rfl : d = 0 := by simpa [isZero, Decimal.isZero] using zero
    by_cases undefined : c = 0
    · subst undefined
      exact ⟨.decimal .divisionUndefined, rfl, rfl⟩
    · have nonzero : ¬(NumberKind.decimal = .decimal ∧
          (decimal (.finite a c e)).isZero = true) := by
        simpa [isZero, Decimal.isZero] using undefined
      exact ⟨.decimal .divisionByZero, congrArg ofDecimal (if_neg undefined),
        by rw [if_neg nonzero]; rfl⟩

/-- Dividing by zero follows the policy, unless both numbers are decimal zeros. -/
theorem combine_div_zero (policy : DivisionPolicy) (leftKind : left.kind? = some kind)
    (rightKind : right.kind? = some kind) (finiteLeft : isFinite left = true)
    (finiteRight : isFinite right = true) (zero : right.isZero = true) :
    combine policy .div left right =
      if kind = .decimal ∧ left.isZero = true then .error (.decimal .divisionUndefined)
      else if policy = .checked then .error (.expression .divisionByZero)
      else .ok (if left.isZero then float .nan
        else float (.infinity (left.isNegative != right.isNegative))) := by
  obtain ⟨fault, refused, cause⟩ :=
    apply_div_zero leftKind rightKind finiteLeft finiteRight zero
  unfold combine divide
  rw [if_pos rfl, refused]
  split at cause
  · next undefined =>
    subst cause
    rw [if_pos undefined]
    cases policy <;> rfl
  · next provided =>
    have infinite : fault.isInfiniteQuotient = true := by
      rw [Fault.isInfiniteQuotient, cause, Bool.true_or]
    have unchecked := ieeeQuotient_zero finiteLeft finiteRight zero cause
    rw [if_neg provided]
    cases policy with
    | checked => exact if_pos infinite
    | unchecked => exact (if_pos infinite).trans (congrArg Except.ok unchecked)

end Value

/-- Dividing a finite number by a zero of the same kind is an error of the expression, or unchecked
gives `nan` for zero by zero and else the infinity whose sign combines those of the two numbers.
Two decimal zeros are refused as an undefined operation under either policy. -/
theorem evaluate_div_zero (host : Host κ σ) (policy : DivisionPolicy) {l r : Node}
    {s t u : Session κ σ} {left right : Value} {kind : NumberKind}
    (runLeft : (Node.evaluate host policy l).run s = (.ok left, t))
    (runRight : (Node.evaluate host policy r).run t = (.ok right, u))
    (leftKind : left.kind? = some kind) (rightKind : right.kind? = some kind)
    (finiteLeft : left.isFinite = true) (finiteRight : right.isFinite = true)
    (zero : right.isZero = true) : ∃ outcome,
      (Node.evaluate host policy (.binary .div l r)).run s = (outcome, u) ∧
      (kind = .decimal ∧ left.isZero = true → outcome = .error (.decimal .divisionUndefined)) ∧
      (¬(kind = .decimal ∧ left.isZero = true) →
        (policy = .checked → outcome = .error (.expression .divisionByZero)) ∧
        (policy = .unchecked → left.isZero = true → outcome = .ok (.float .nan)) ∧
        (policy = .unchecked → left.isZero = false →
          outcome = .ok (.float (.infinity (left.isNegative != right.isNegative))))) := by
  refine ⟨_, Node.evaluate_binary_of_ok host policy .div runLeft runRight, ?_⟩
  rw [Value.combine_div_zero policy leftKind rightKind finiteLeft finiteRight zero]
  refine ⟨fun undefined => if_pos undefined, fun provided => ?_⟩
  rw [if_neg provided]
  refine ⟨?_, ?_, ?_⟩
  · rintro rfl
    rfl
  · rintro rfl zeroLeft
    rw [zeroLeft]
    rfl
  · rintro rfl nonzero
    rw [nonzero]
    rfl

/-- A negative number divided by a negative zero, unchecked. -/
theorem evaluate_div_zero_of_negatives :
    let host := Callback.host Callback.shown
    let dividend := Value.decimal (.finite true 15 (-1))
    let divisor := Value.decimal (.finite true 0 0)
    let s : Session Callback _ := .start ⟨"", .literal dividend, .empty⟩ .unchecked .empty
    dividend.isFinite = true ∧ divisor.isFinite = true ∧ divisor.isZero = true ∧
      ((Node.evaluate host .unchecked (.binary .div (.literal dividend) (.literal divisor))).run
        s).1 = .ok (.float (.infinity false)) := by
  intro host dividend divisor s
  obtain ⟨outcome, run, _, provided⟩ := evaluate_div_zero host .unchecked (s := s)
    (l := .literal dividend) (r := .literal divisor) rfl rfl rfl rfl rfl rfl rfl
  have quotient := (provided (by decide)).2.2 rfl rfl
  exact ⟨rfl, rfl, rfl, by rw [run, quotient]; rfl⟩

/-- Zero by zero in decimals is no division by zero under either policy. -/
theorem evaluate_zero_by_zero_decimal :
    let host := Callback.host Callback.shown
    ∃ compiled, Compiled.compile .decimal "0/0" "<expr>" = .ok compiled ∧
      ((Session.start compiled .checked .empty).evaluate host).1 =
        .error (.decimal .divisionUndefined) ∧
      ((Session.start compiled .unchecked .empty).evaluate host).1 =
        .error (.decimal .divisionUndefined) := by
  intro host
  have scanned : Lexeme.scan 1 "0/0".toList =
      [⟨.number ['0'], 1⟩, ⟨.mark '/', 2⟩, ⟨.number ['0'], 3⟩] := by
    have text : "0/0".toList = ['0', '/', '0'] := rfl
    rw [text]
    decide +kernel
  refine ⟨⟨"0/0", .binary .div (.literal (.decimal (.finite false 0 0)))
    (.literal (.decimal (.finite false 0 0))), .empty⟩, ?_, rfl, rfl⟩
  rw [Compiled.compile, Term.read, scanned, Grammar.Situation.readOperand_eq_run]
  rfl

end Formula
