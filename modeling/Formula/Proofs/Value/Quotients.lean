import Formula.Proofs.Number.Overflow
import Formula.Proofs.Session.Recording
import Formula.Proofs.Value.ZeroDivision

/-! Quotients that are refused for their size. Integers, binary64 numbers and fractions are divided
in the arithmetic in which they meet, and it is this arithmetic that finds a quotient too great.
Beside a binary64 number the other operand is rounded first. As long as rounding does not change it,
only a quotient that would itself round to an infinity is refused. -/
namespace Formula

namespace Value

/-- The rational number that a finite integer, binary64 number or fraction is. -/
inductive Denotes : Value → Rat → Prop where
  | int (n : Int) : Denotes (.int n) n
  | float : x.isFinite = true → Denotes (.float x) x.toRat
  | fraction (q : Rat) : Denotes (.fraction q) q

/-- One of the operands is a binary64 number, so that they meet in binary64 arithmetic. -/
def MeetInBinary64 (left right : Value) : Prop :=
  left.kind? = some .float ∨ right.kind? = some .float

instance (left right : Value) : Decidable (MeetInBinary64 left right) :=
  inferInstanceAs (Decidable (_ ∨ _))

/-- The number in binary64 arithmetic, where `r` is the rational number that it is. -/
def inBinary64 (v : Value) (r : Rat) : Binary64 :=
  match v with
  | float x => x
  | _ => .ofRat r

theorem inBinary64_int (n : Int) (r : Rat) : (int n).inBinary64 r = .ofRat r :=
  rfl

theorem inBinary64_float (x : Binary64) (r : Rat) : (float x).inBinary64 r = x :=
  rfl

theorem inBinary64_fraction (q r : Rat) : (fraction q).inBinary64 r = .ofRat r :=
  rfl

/-- The number does not change in binary64 arithmetic. -/
def FitsBinary64 (v : Value) (r : Rat) : Prop :=
  (v.inBinary64 r).isFinite = true ∧ (v.inBinary64 r).toRat = r

/-- The arithmetic in which the operands meet refuses their quotient: an operand cannot be brought
into it, the divisor becomes zero there, or the quotient is too great. -/
def Refuses (left right : Value) (p q : Rat) : Prop :=
  if MeetInBinary64 left right then
    (left.inBinary64 p).isInfinite = true ∨ (right.inBinary64 q).isInfinite = true ∨
      (right.inBinary64 q).isZero = true ∨
      Binary64.overflowBound ≤ |(left.inBinary64 p).toRat / (right.inBinary64 q).toRat|
  else left.kind? = some .int ∧ right.kind? = some .int ∧ Binary64.overflowBound ≤ |p / q|

/-- What arithmetic makes of the quotient of `p` by `q`: an infinity with its sign or a fault if it
is refused, and otherwise a finite number. -/
inductive Judges (p q : Rat) (refused : Prop) : Except Fault Value → Prop where
  | finite : v.isInfinite = false → ¬refused → Judges p q refused (.ok v)
  | infinite : refused →
      Judges p q refused (.ok (.float (.infinity (decide (p < 0) != decide (q < 0)))))
  | fault : fault.isInfiniteQuotient = true → refused → Judges p q refused (.error fault)

/-! ### Operands -/

theorem floatOfInt_eq (n : Int) : floatOfInt n =
    if (Binary64.ofRat n).isInfinite then .error (.overflow .integer) else .ok (.ofRat n) :=
  rfl

theorem floatOfFraction_eq (q : Rat) : floatOfFraction q =
    if (Binary64.ofRat q).isInfinite then .error (.overflow .quotient) else .ok (.ofRat q) := by
  have nonzero : (q.den : Int) ≠ 0 := Int.natCast_ne_zero.mpr q.den_nz
  have sign : (decide (q.num < 0) != decide ((q.den : Int) < 0)) = decide (q.num < 0) := by
    rw [decide_eq_false (Int.natCast_nonneg q.den).not_gt, Bool.bne_false]
  rw [floatOfFraction, quotientOfInts, if_neg nonzero, sign]
  rfl

section
variable {left right v : Value} {p q r : Rat}

theorem isFinite_inBinary64 (denotes : Denotes v r) (small : (v.inBinary64 r).isInfinite = false) :
    (v.inBinary64 r).isFinite = true := by
  cases denotes with
  | int | fraction =>
    refine (Binary64.isFinite_ofRat _).trans ?_
    rw [Bool.not_eq_true']
    exact small
  | float finite => exact finite

theorem isNegative_inBinary64 (denotes : Denotes v r) (nonzero : (v.inBinary64 r).toRat ≠ 0) :
    (v.inBinary64 r).isNegative = decide (r < 0) := by
  cases denotes with
  | int | fraction => exact Binary64.isNegative_ofRat _
  | float => exact Binary64.isNegative_of_toRat_ne_zero nonzero

theorem isBelowZero_of_denotes (denotes : Denotes v r) : v.isBelowZero = decide (r < 0) := by
  cases denotes with
  | int n => simp [isBelowZero]
  | fraction => simp [isBelowZero, Rat.num_neg]
  | @float x finite =>
    rw [isBelowZero]
    by_cases zero : x.toRat = 0
    · simp [(Binary64.toRat_eq_zero_iff finite).mp zero, zero]
    · have nonzero : x.isZero = false := by
        simpa using mt (Binary64.toRat_eq_zero_iff finite).mpr zero
      rw [nonzero, Binary64.isNegative_of_toRat_ne_zero zero, Bool.not_false, Bool.and_true]

theorem isNegativeZero_of_denotes (denotes : Denotes v r) (nonzero : r ≠ 0) :
    v.isNegativeZero = false := by
  cases denotes with
  | int | fraction => rfl
  | @float x finite =>
    have present : x.isZero = false := by
      simpa using mt (Binary64.toRat_eq_zero_iff finite).mpr nonzero
    rw [isNegativeZero, present, Bool.false_and]

/-- The infinity that stands for a quotient has the signs of the operands combined. -/
theorem signedInfinity_eq (exactLeft : Denotes left p) (exactRight : Denotes right q)
    (nonzero : q ≠ 0) : signedInfinity left right =
      float (.infinity (decide (p < 0) != decide (q < 0))) := by
  rw [signedInfinity, isBelowZero_of_denotes exactLeft, isBelowZero_of_denotes exactRight,
    isNegativeZero_of_denotes exactRight nonzero, Bool.or_false]

theorem sign_eq (nonzeroLeft : p ≠ 0) (nonzeroRight : q ≠ 0) :
    (decide (p < 0) != decide (q < 0)) = decide (p / q < 0) := by
  rcases lt_or_gt_of_ne nonzeroLeft with negative | positive <;>
    rcases lt_or_gt_of_ne nonzeroRight with below | above
  · simp [negative, below, (div_pos_of_neg_of_neg negative below).not_gt]
  · simp [negative, above.not_gt, div_neg_of_neg_of_pos negative above]
  · simp [positive.not_gt, below, div_neg_of_pos_of_neg positive below]
  · simp [positive.not_gt, above.not_gt, (div_pos positive above).not_gt]

/-- Integers below `2 ^ 53` in magnitude do not change. -/
theorem fitsBinary64_int {n : Int} (small : n.natAbs < 2 ^ 53) : (int n).FitsBinary64 n := by
  have magnitude : |(n : Rat)| * Binary64.oneUnits = (n.natAbs * 2 ^ 1074 : Nat) := by
    rw [Nat.cast_mul, Nat.cast_natAbs, Int.cast_abs, Binary64.oneUnits]
  have within : n.natAbs * 2 ^ 1074 < Binary64.overflowUnits := calc
    n.natAbs * 2 ^ 1074 < 2 ^ 53 * 2 ^ 1074 := by gcongr
    _ < Binary64.overflowUnits := by decide +kernel
  exact Binary64.ofRat_exact magnitude small within

/-! ### Quotients -/

/-- An operation whose operands meet after one of them is converted. -/
theorem apply_of_conversion {conversion : Except Fault α} {f : α → Operands} {large : Bool} {a : α}
    (op : BinaryOperator) (found : operands? left right = some (conversion.map f))
    (converts : conversion = if large = true then .error fault else .ok a) :
    apply op left right = if large = true then .error fault else (f a).apply op := by
  rw [apply, found, converts]
  cases large <;> rfl

theorem isInfinite_of_isFinite {x : Binary64} (finite : x.isFinite = true) :
    x.isInfinite = false := by
  cases x with
  | infinity => contradiction
  | nan | finite => rfl

/-- Beside a binary64 number, operands that are not too great are divided as binary64 numbers. -/
theorem exists_apply_div (exactLeft : Denotes left p) (exactRight : Denotes right q)
    (meet : MeetInBinary64 left right) : ∃ cause, apply .div left right =
      if (left.inBinary64 p).isInfinite = true ∨ (right.inBinary64 q).isInfinite = true then
        .error (.overflow cause)
      else floatOperation .div (left.inBinary64 p) (right.inBinary64 q) := by
  cases exactLeft with
  | int n =>
    cases exactRight with
    | int | fraction => simp [MeetInBinary64, kind?] at meet
    | @float y finite =>
      refine ⟨.integer, (apply_of_conversion .div rfl (floatOfInt_eq n)).trans ?_⟩
      simp only [inBinary64_int, inBinary64_float, isInfinite_of_isFinite finite,
        Bool.false_eq_true, or_false]
      rfl
  | fraction =>
    cases exactRight with
    | int | fraction => simp [MeetInBinary64, kind?] at meet
    | @float y finite =>
      refine ⟨.quotient, (apply_of_conversion .div rfl (floatOfFraction_eq _)).trans ?_⟩
      simp only [inBinary64_fraction, inBinary64_float, isInfinite_of_isFinite finite,
        Bool.false_eq_true, or_false]
      rfl
  | @float x finite =>
    cases exactRight with
    | int n =>
      refine ⟨.integer, (apply_of_conversion .div rfl (floatOfInt_eq n)).trans ?_⟩
      simp only [inBinary64_int, inBinary64_float, isInfinite_of_isFinite finite,
        Bool.false_eq_true, false_or]
      rfl
    | fraction =>
      refine ⟨.quotient, (apply_of_conversion .div rfl (floatOfFraction_eq _)).trans ?_⟩
      simp only [inBinary64_fraction, inBinary64_float, isInfinite_of_isFinite finite,
        Bool.false_eq_true, false_or]
      rfl
    | @float y finiteRight =>
      refine ⟨.quotient, ?_⟩
      simp only [inBinary64_float, isInfinite_of_isFinite finite,
        isInfinite_of_isFinite finiteRight, Bool.false_eq_true, or_false, if_false]
      rfl

theorem judges_floatOperation {x y : Binary64} (finiteLeft : x.isFinite = true)
    (finiteRight : y.isFinite = true)
    (signLeft : x.toRat ≠ 0 → x.isNegative = decide (p < 0))
    (signRight : y.toRat ≠ 0 → y.isNegative = decide (q < 0)) :
    Judges p q (y.isZero = true ∨ Binary64.overflowBound ≤ |x.toRat / y.toRat|)
      (floatOperation .div x y) := by
  rw [floatOperation]
  by_cases zero : y.isZero = true
  · rw [if_pos zero]
    exact .fault rfl (.inl zero)
  · rw [if_neg zero]
    have nonzero : y.toRat ≠ 0 := mt (Binary64.toRat_eq_zero_iff finiteRight).mp zero
    rw [Bool.not_eq_true] at zero
    have beyond := Binary64.isInfinite_div finiteLeft finiteRight zero
    cases infinite : (x.div y).isInfinite with
    | true =>
      have bound := beyond.mp infinite
      have present : x.toRat ≠ 0 := by
        intro none
        rw [none, zero_div, abs_zero] at bound
        exact absurd bound Binary64.overflowBound_pos.not_ge
      rw [Binary64.eq_infinity_of_isInfinite infinite,
        Binary64.isNegative_div finiteLeft finiteRight zero, signLeft present, signRight nonzero]
      exact .infinite (.inr bound)
    | false =>
      refine .finite infinite ?_
      rw [zero, ← beyond, infinite]
      simp

theorem judges_floats (exactLeft : Denotes left p) (exactRight : Denotes right q)
    (meet : MeetInBinary64 left right) :
    Judges p q (Refuses left right p q) (apply .div left right) := by
  obtain ⟨cause, divides⟩ := exists_apply_div exactLeft exactRight meet
  rw [divides, Refuses, if_pos meet, ← or_assoc]
  by_cases large : (left.inBinary64 p).isInfinite = true ∨ (right.inBinary64 q).isInfinite = true
  · rw [if_pos large]
    exact .fault rfl (.inl large)
  · rw [if_neg large, or_iff_right large]
    rw [not_or, Bool.not_eq_true, Bool.not_eq_true] at large
    exact judges_floatOperation (isFinite_inBinary64 exactLeft large.1)
      (isFinite_inBinary64 exactRight large.2) (isNegative_inBinary64 exactLeft)
      (isNegative_inBinary64 exactRight)

theorem judges_ints (a b : Int) (nonzero : (b : Rat) ≠ 0) :
    Judges a b (Refuses (.int a) (.int b) a b) (apply .div (.int a) (.int b)) := by
  have present : b ≠ 0 := Int.cast_ne_zero.mp nonzero
  have apart : ¬MeetInBinary64 (.int a) (.int b) := by
    simp [MeetInBinary64, kind?]
  have divides : apply .div (.int a) (.int b) = (quotientOfInts a b).map .float := rfl
  have beyond := Binary64.isInfinite_ofQuotient (decide (a < 0) != decide (b < 0)) a.natAbs
    (Int.natAbs_pos.mpr present)
  rw [Nat.cast_natAbs, Nat.cast_natAbs, Int.cast_abs, Int.cast_abs, ← abs_div] at beyond
  rw [divides, quotientOfInts, if_neg present, Refuses, if_neg apart, ← beyond]
  dsimp only
  generalize Binary64.ofQuotient _ _ _ = x
  cases infinite : x.isInfinite with
  | true => exact .fault rfl ⟨rfl, rfl, rfl⟩
  | false => exact .finite infinite (by simp)

/-- The quotient of two numbers is an infinity or a fault exactly if it is refused. -/
theorem judges_div (exactLeft : Denotes left p) (exactRight : Denotes right q)
    (nonzero : q ≠ 0) : Judges p q (Refuses left right p q) (apply .div left right) := by
  by_cases meet : MeetInBinary64 left right
  · exact judges_floats exactLeft exactRight meet
  · have rational (a b : Rat) (present : b ≠ 0)
        (divides : apply .div left right = fractionOperation .div a b)
        (kinds : left.kind? = some .fraction ∨ right.kind? = some .fraction) :
        Judges p q (Refuses left right p q) (apply .div left right) := by
      rw [divides, fractionOperation, if_neg (mt Rat.num_eq_zero.mp present), Refuses, if_neg meet]
      refine .finite rfl ?_
      rintro ⟨left, right, _⟩
      rcases kinds with same | same <;> simp_all
    cases exactLeft with
    | float => exact absurd (.inl rfl) meet
    | int a =>
      cases exactRight with
      | float => exact absurd (.inr rfl) meet
      | int b => exact judges_ints a b nonzero
      | fraction => exact rational _ _ nonzero rfl (.inr rfl)
    | fraction =>
      cases exactRight with
      | float => exact absurd (.inr rfl) meet
      | int b => exact rational _ _ nonzero rfl (.inl rfl)
      | fraction => exact rational _ _ nonzero rfl (.inl rfl)

/-- A refused quotient is too great itself, unless an operand changed in binary64 arithmetic. -/
theorem Refuses.bound (refuses : Refuses left right p q) (nonzero : q ≠ 0)
    (fits : MeetInBinary64 left right → left.FitsBinary64 p ∧ right.FitsBinary64 q) :
    Binary64.overflowBound ≤ |p / q| := by
  unfold Refuses at refuses
  split at refuses
  · next meet =>
    obtain ⟨⟨finiteLeft, sameLeft⟩, finiteRight, sameRight⟩ := fits meet
    rw [isInfinite_of_isFinite finiteLeft, isInfinite_of_isFinite finiteRight,
      ← Binary64.toRat_eq_zero_iff finiteRight, sameLeft, sameRight] at refuses
    simpa [nonzero] using refuses
  · exact refuses.2.2

/-! ### Policies -/

/-- The outcome is a division by zero or an infinity. -/
def Reported (outcome : Except Fault Value) : Prop :=
  outcome = .error (.expression .divisionByZero) ∨ ∃ v, outcome = .ok v ∧ v.isInfinite = true

/-- The outcome of a quotient of `p` by `q` under a policy: it is reported if it is refused, except
that unchecked a zero may give `nan`, and only unchecked is there an infinity, which has the signs
of the operands combined. -/
structure Verdict (policy : DivisionPolicy) (p q : Rat) (refused : Prop)
    (outcome : Except Fault Value) : Prop where
  sound : Reported outcome → refused
  complete : refused → (policy = .unchecked → p ≠ 0) → Reported outcome
  value : policy = .unchecked → ∃ v, outcome = .ok v
  sign : ∀ v, outcome = .ok v → v.isInfinite = true → policy = .unchecked ∧
    v = .float (.infinity (decide (p < 0) != decide (q < 0)))

theorem isFinite_of_denotes (denotes : Denotes v r) : v.isFinite = true := by
  cases denotes with
  | int | fraction => rfl
  | float finite => exact finite

theorem isZero_of_denotes (denotes : Denotes v r) (nonzero : r ≠ 0) : v.isZero = false := by
  cases denotes with
  | int n => simpa [isZero] using nonzero
  | fraction => simpa [isZero] using nonzero
  | @float x finite => simpa [isZero] using mt (Binary64.toRat_eq_zero_iff finite).mpr nonzero

theorem ieeeQuotient_nonzero (finite : left.isFinite = true) (nonzero : left.isZero = false) :
    ieeeQuotient fault left right = signedInfinity left right := by
  rw [ieeeQuotient, nonzero, isFloatNaN_of_isFinite finite, Bool.or_false, Bool.and_false,
    if_neg Bool.false_ne_true]

theorem ieeeQuotient_of_isInfinite
    (infinite : (ieeeQuotient fault left right).isInfinite = true) :
    ieeeQuotient fault left right = signedInfinity left right := by
  unfold ieeeQuotient at infinite ⊢
  split
  · next noNumber =>
    rw [if_pos noNumber] at infinite
    contradiction
  · rfl

theorem divide_of_finite (policy : DivisionPolicy) (success : apply .div left right = .ok v)
    (finite : v.isInfinite = false) : divide policy left right = .ok v := by
  rw [divide.eq_def, success]
  cases policy with
  | checked => exact if_neg (by simp [finite])
  | unchecked => rfl

theorem divide_of_infinite (policy : DivisionPolicy) (success : apply .div left right = .ok v)
    (infinite : v.isInfinite = true) : divide policy left right =
      if policy = .checked then .error (.expression .divisionByZero) else .ok v := by
  rw [divide.eq_def, success]
  cases policy with
  | checked => exact if_pos infinite
  | unchecked => rfl

theorem divide_of_fault (policy : DivisionPolicy) (failed : apply .div left right = .error fault)
    (infinite : fault.isInfiniteQuotient = true) : divide policy left right =
      if policy = .checked then .error (.expression .divisionByZero)
      else .ok (ieeeQuotient fault left right) := by
  rw [divide.eq_def, failed]
  cases policy <;> exact if_pos infinite

/-- What a policy makes of a quotient that is refused or not. -/
theorem verdict_divide (policy : DivisionPolicy) (exactLeft : Denotes left p)
    (exactRight : Denotes right q) (nonzero : q ≠ 0)
    (judges : Judges p q refused (apply .div left right)) :
    Verdict policy p q refused (divide policy left right) := by
  have standIn := signedInfinity_eq exactLeft exactRight nonzero
  generalize same : apply .div left right = outcome at judges
  cases judges with
  | @finite v finite accepted =>
    rw [divide_of_finite policy same finite]
    have noInfinity : ¬v.isInfinite = true := by
      simp [finite]
    refine ⟨?_, fun refuses => absurd refuses accepted, fun _ => ⟨v, rfl⟩, ?_⟩
    · rintro (failed | ⟨_, ⟨⟩, infinite⟩)
      · contradiction
      · exact absurd infinite noInfinity
    · rintro _ ⟨⟩ infinite
      exact absurd infinite noInfinity
  | infinite refuses =>
    rw [divide_of_infinite policy same rfl]
    cases policy with
    | checked => exact ⟨fun _ => refuses, fun _ _ => .inl rfl, nofun, nofun⟩
    | unchecked =>
      refine ⟨fun _ => refuses, fun _ _ => .inr ⟨_, rfl, rfl⟩, fun _ => ⟨_, rfl⟩, ?_⟩
      rintro _ ⟨⟩ _
      exact ⟨rfl, rfl⟩
  | @fault fault cause refuses =>
    rw [divide_of_fault policy same cause]
    cases policy with
    | checked => exact ⟨fun _ => refuses, fun _ _ => .inl rfl, nofun, nofun⟩
    | unchecked =>
      refine ⟨fun _ => refuses, fun _ proper => ?_, fun _ => ⟨_, rfl⟩, ?_⟩
      · have present := isZero_of_denotes exactLeft (proper rfl)
        refine .inr ⟨_, rfl, ?_⟩
        rw [ieeeQuotient_nonzero (isFinite_of_denotes exactLeft) present, standIn]
        rfl
      · rintro _ ⟨⟩ infinite
        rw [ieeeQuotient_of_isInfinite infinite, standIn]
        exact ⟨rfl, rfl⟩

end

end Value

/-- Dividing two finite numbers that are no decimals is reported as a division by zero, or gives an
infinity, exactly if the arithmetic in which they meet refuses the quotient; unchecked, a zero may
also give `nan` there. The infinity has the sign of the quotient. Where binary64 arithmetic does not
change an operand, only a quotient that rounds beyond the greatest number is reported. -/
theorem evaluate_quotient_reported (host : Host κ σ) (policy : DivisionPolicy) {l r : Node}
    {s t u : Session κ σ} {left right : Value} {p q : Rat}
    (runLeft : (Node.evaluate host policy l).run s = (.ok left, t))
    (runRight : (Node.evaluate host policy r).run t = (.ok right, u))
    (exactLeft : left.Denotes p) (exactRight : right.Denotes q) (nonzero : q ≠ 0) : ∃ outcome,
      (Node.evaluate host policy (.binary .div l r)).run s = (outcome, u) ∧
      (policy = .unchecked → ∃ v, outcome = .ok v) ∧
      (Value.Reported outcome → Value.Refuses left right p q) ∧
      (Value.Refuses left right p q → (policy = .unchecked → p ≠ 0) → Value.Reported outcome) ∧
      (∀ v, outcome = .ok v → v.isInfinite = true → policy = .unchecked ∧
        (p ≠ 0 → v = .float (.infinity (decide (p / q < 0))))) ∧
      (Value.Reported outcome →
        (left.MeetInBinary64 right → left.FitsBinary64 p ∧ right.FitsBinary64 q) →
        2 ^ 1024 - 2 ^ 970 ≤ |p / q|) := by
  have judges := Value.judges_div exactLeft exactRight nonzero
  have verdict := Value.verdict_divide policy exactLeft exactRight nonzero judges
  refine ⟨_, Node.evaluate_binary_of_ok host policy .div runLeft runRight, verdict.value,
    verdict.sound, verdict.complete, ?_, fun reported => (verdict.sound reported).bound nonzero⟩
  intro v success infinite
  obtain ⟨unchecked, same⟩ := verdict.sign v success infinite
  exact ⟨unchecked, fun present => by rw [same, Value.sign_eq present nonzero]⟩

/-- Minus one divided by the least positive binary64 number, unchecked. -/
theorem evaluate_quotient_reported_of_least :
    let host := Callback.host Callback.shown
    let least := Binary64.finite false 1 0
    let dividend := Value.int (-1)
    let divisor := Value.float least
    let s : Session Callback _ := .start ⟨"", .literal dividend, .empty⟩ .unchecked .empty
    (2 : Rat) ^ 1024 - 2 ^ 970 ≤ |((-1 : Int) : Rat) / least.toRat| ∧
      ((Node.evaluate host .unchecked (.binary .div (.literal dividend) (.literal divisor))).run
        s).1 = .ok (.float (.infinity true)) := by
  intro host least dividend divisor s
  have fits : dividend.FitsBinary64 (-1 : Int) := Value.fitsBinary64_int (by decide)
  have refuses : Value.Refuses dividend divisor (-1 : Int) least.toRat := by
    rw [Value.Refuses, if_pos (.inr rfl), fits.2]
    exact .inr (.inr (.inr (by decide +kernel)))
  have present : ((-1 : Int) : Rat) ≠ 0 := by
    decide +kernel
  obtain ⟨outcome, run, value, _, complete, sign, bound⟩ :=
    evaluate_quotient_reported host .unchecked (s := s) (l := .literal dividend)
      (r := .literal divisor) rfl rfl (.int (-1)) (.float rfl) (by decide +kernel)
  have reported := complete refuses fun _ => present
  refine ⟨bound reported fun _ => ⟨fits, rfl, rfl⟩, ?_⟩
  obtain ⟨v, success⟩ := value rfl
  have infinite : v.isInfinite = true := by
    rcases reported with failed | ⟨_, same, infinite⟩
    · exact nomatch success.symm.trans failed
    · rw [success] at same
      exact Except.ok.inj same ▸ infinite
  have negative : decide (((-1 : Int) : Rat) / least.toRat < 0) = true := by
    decide +kernel
  rw [run, success, (sign v success infinite).2 present, negative]

/-- The divisor is too great for a binary64 number, but the quotient is not. -/
theorem evaluate_ten_by_large :
    let host := Callback.host Callback.shown
    ∃ compiled s, Compiled.compile .float "10/x" "<expr>" = .ok compiled ∧
      (Session.start compiled .checked .empty).bindVariable "x" (.int (2 * 10 ^ 308)) = .ok s ∧
      (s.evaluate host).1 = .error (.expression .divisionByZero) ∧
      |(10 : Rat) / (2 * 10 ^ 308)| < 2 ^ 1024 - 2 ^ 970 := by
  intro host
  have scanned : Lexeme.scan 1 "10/x".toList =
      [⟨.number ['1', '0'], 1⟩, ⟨.mark '/', 3⟩, ⟨.name ['x'], 4⟩] := by
    have text : "10/x".toList = ['1', '0', '/', 'x'] := rfl
    rw [text]
    decide +kernel
  have numeral : Binary64.read? (String.ofList ['1', '0']) =
      some (.finite false (10 * 2 ^ 49) 1025) := by
    decide +kernel
  have read : NumberKind.float.read? (String.ofList ['1', '0']) =
      some (.float (.finite false (10 * 2 ^ 49) 1025)) := congrArg (Option.map Value.float) numeral
  have compiled : Compiled.compile .float "10/x" "<expr>" = .ok ⟨"10/x",
      .binary .div (.literal (.float (.finite false (10 * 2 ^ 49) 1025))) (.var ⟨0, "x"⟩),
      ⟨[⟨0, "x"⟩], []⟩⟩ := by
    rw [Compiled.compile, Term.read, scanned, Grammar.Situation.readOperand_eq_run,
      Grammar.Situation.run, Grammar.Situation.take, Grammar.Situation.takeOperand, read]
    rfl
  have large : (Binary64.ofRat (2 * 10 ^ 308 : Int)).isInfinite = true := by
    decide +kernel
  have refused : Value.apply .div (.float (.finite false (10 * 2 ^ 49) 1025))
      (.int (2 * 10 ^ 308)) = .error (.overflow .integer) := by
    rw [Value.apply_of_conversion .div rfl (Value.floatOfInt_eq _), if_pos large]
  have divides : Value.combine .checked .div (.float (.finite false (10 * 2 ^ 49) 1025))
      (.int (2 * 10 ^ 308)) = .error (.expression .divisionByZero) := by
    rw [Value.combine, if_pos rfl, Value.divide_of_fault .checked refused rfl, if_pos rfl]
  refine ⟨_, _, compiled, rfl, ?_, ?_⟩
  · rw [Session.evaluate_of_ok host rfl]
    change (ExceptT.run (Node.evaluate host .checked (.binary .div (.literal _) (.var _))) _).1 = _
    rw [Node.evaluate_binary_of_ok host .checked .div rfl rfl, divides]
  · decide +kernel

end Formula
