import Formula.Number.Binary64.Arithmetic
import Mathlib.Algebra.Order.Field.Basic
import Mathlib.Data.Rat.Cast.Order
import Mathlib.Tactic.Positivity

/-! Overflow of binary64 numbers. Rounding a quotient gives an infinity if and only if the quotient
is half-way between the greatest finite number and the next power of two, or beyond. -/
namespace Formula.Binary64

/-- The least magnitude that rounds to infinity. -/
def overflowBound : Rat :=
  2 ^ 1024 - 2 ^ 970

theorem overflowBound_pos : 0 < overflowBound :=
  sub_pos.mpr (pow_lt_pow_right₀ one_lt_two (by decide))

theorem oneUnits_pos : (0 : Rat) < oneUnits := by
  rw [oneUnits, Nat.cast_pow]
  positivity

theorem overflowUnits_eq : (overflowUnits : Rat) = overflowBound * oneUnits := by
  have units : (overflowUnits : Rat) = 2 ^ (54 + 2044) - 2 ^ 2044 := by
    rw [overflowUnits, Nat.cast_mul, Nat.cast_sub (by decide), Nat.cast_pow, Nat.cast_pow, sub_mul,
      Nat.cast_one, one_mul, pow_add, Nat.cast_ofNat]
  have bound : overflowBound * oneUnits = 2 ^ (1024 + 1074) - 2 ^ (970 + 1074) := by
    rw [overflowBound, oneUnits, Nat.cast_pow, sub_mul, pow_add, pow_add, Nat.cast_ofNat]
  exact units.trans bound.symm

/-! ### Rounding -/

theorem isInfinite_roundUnits (negative : Bool) (n d : Nat) :
    (roundUnits negative n d).isInfinite = true ↔ overflowUnits * d ≤ n := by
  unfold roundUnits
  split
  · next beyond => exact iff_of_true rfl beyond
  · next within =>
    refine iff_of_false ?_ within
    dsimp only
    split <;> exact Bool.false_ne_true

theorem isNegative_roundUnits (negative : Bool) (n d : Nat) :
    (roundUnits negative n d).isNegative = negative := by
  unfold roundUnits
  split
  · rfl
  · dsimp only
    split <;> rfl

/-- Rounding gives a finite number or an infinity. -/
theorem isFinite_roundUnits (negative : Bool) (n d : Nat) :
    (roundUnits negative n d).isFinite = !(roundUnits negative n d).isInfinite := by
  unfold roundUnits
  split
  · rfl
  · dsimp only
    split <;> rfl

theorem isInfinite_ofQuotient (negative : Bool) (n : Nat) {d : Nat} (positive : 0 < d) :
    (ofQuotient negative n d).isInfinite = true ↔ overflowBound ≤ (n : Rat) / d := by
  have units := oneUnits_pos
  rw [ofQuotient, isInfinite_roundUnits, ← Nat.cast_le (α := Rat), Nat.cast_mul, Nat.cast_mul,
    overflowUnits_eq, mul_right_comm, mul_le_mul_iff_left₀ units,
    le_div_iff₀ (Nat.cast_pos.mpr positive)]

theorem isNegative_ofRat (r : Rat) : (ofRat r).isNegative = decide (r < 0) := by
  rw [ofRat, ofQuotient, isNegative_roundUnits]
  simp [Rat.num_neg]

theorem isFinite_ofRat (r : Rat) : (ofRat r).isFinite = !(ofRat r).isInfinite := by
  rw [ofRat, ofQuotient, isFinite_roundUnits]

theorem eq_infinity_of_isInfinite {x : Binary64} (infinite : x.isInfinite = true) :
    x = .infinity x.isNegative := by
  cases x with
  | infinity => rfl
  | nan | finite => contradiction

/-! ### Finite numbers -/

section
variable {x y : Binary64}

/-- A finite number is its magnitude with its sign. -/
theorem toRat_eq (x : Binary64) :
    x.toRat = if x.isNegative then -(x.magnitudeUnits / oneUnits : Rat)
      else x.magnitudeUnits / oneUnits := by
  rw [toRat, Rat.mkRat_eq_div, units]
  split
  · rw [Int.cast_neg, Int.cast_natCast, neg_div]
  · rw [Int.cast_natCast]

theorem abs_toRat (x : Binary64) : |x.toRat| = (x.magnitudeUnits : Rat) / oneUnits := by
  have natural : (0 : Rat) ≤ x.magnitudeUnits / oneUnits := by positivity
  rw [toRat_eq]
  split
  · rw [abs_neg, abs_of_nonneg natural]
  · exact abs_of_nonneg natural

theorem isZero_iff (finite : x.isFinite = true) : x.isZero = true ↔ x.magnitudeUnits = 0 := by
  cases x with
  | nan | infinity => contradiction
  | finite negative significand exponent => simp [isZero, magnitudeUnits]

theorem toRat_eq_zero_iff (finite : x.isFinite = true) : x.toRat = 0 ↔ x.isZero = true := by
  rw [isZero_iff finite, ← abs_eq_zero, abs_toRat, div_eq_zero_iff, Nat.cast_eq_zero]
  exact or_iff_left oneUnits_pos.ne'

theorem isNegative_of_toRat_ne_zero (nonzero : x.toRat ≠ 0) :
    x.isNegative = decide (x.toRat < 0) := by
  have present : (0 : Rat) < x.magnitudeUnits := by
    have magnitude := abs_pos.mpr nonzero
    rw [abs_toRat] at magnitude
    exact (div_pos_iff_of_pos_right oneUnits_pos).mp magnitude
  have quotient := div_pos present oneUnits_pos
  rw [toRat_eq]
  cases x.isNegative with
  | true =>
    rw [if_pos rfl]
    exact (decide_eq_true (neg_neg_of_pos quotient)).symm
  | false =>
    rw [if_neg Bool.false_ne_true]
    exact (decide_eq_false quotient.le.not_gt).symm

/-- The quotient of finite numbers is rounded once. -/
theorem div_eq_ofQuotient (finiteLeft : x.isFinite = true) (finiteRight : y.isFinite = true)
    (nonzero : y.isZero = false) : x.div y =
      ofQuotient (x.isNegative != y.isNegative) x.magnitudeUnits y.magnitudeUnits := by
  cases x with
  | nan | infinity => contradiction
  | finite a =>
    cases y with
    | nan | infinity => contradiction
    | finite b => exact if_neg (by simp [nonzero])

theorem isInfinite_div (finiteLeft : x.isFinite = true) (finiteRight : y.isFinite = true)
    (nonzero : y.isZero = false) :
    (x.div y).isInfinite = true ↔ overflowBound ≤ |x.toRat / y.toRat| := by
  have present : 0 < y.magnitudeUnits := by
    rw [Nat.pos_iff_ne_zero, ne_eq, ← isZero_iff finiteRight, nonzero]
    exact Bool.false_ne_true
  rw [div_eq_ofQuotient finiteLeft finiteRight nonzero, isInfinite_ofQuotient _ _ present, abs_div,
    abs_toRat, abs_toRat, div_div_div_cancel_right₀ oneUnits_pos.ne']

theorem isNegative_div (finiteLeft : x.isFinite = true) (finiteRight : y.isFinite = true)
    (nonzero : y.isZero = false) :
    (x.div y).isNegative = (x.isNegative != y.isNegative) := by
  rw [div_eq_ofQuotient finiteLeft finiteRight nonzero, ofQuotient, isNegative_roundUnits]

end

/-! ### Numbers that rounding keeps -/

/-- Rounding keeps what fits into a significand. -/
theorem roundUnits_exact (negative : Bool) {significand exponent d : Nat} (positive : 0 < d)
    (fits : significand < 2 ^ 53) (within : significand * 2 ^ exponent < overflowUnits) :
    (roundUnits negative (significand * 2 ^ exponent * d) d).isFinite = true ∧
      (roundUnits negative (significand * 2 ^ exponent * d) d).magnitudeUnits =
        significand * 2 ^ exponent := by
  have small : ¬overflowUnits * d ≤ significand * 2 ^ exponent * d := by
    rw [not_le]
    exact Nat.mul_lt_mul_of_pos_right within positive
  have shift : Nat.log2 (significand * 2 ^ exponent) - 52 ≤ exponent := by
    by_cases zero : significand * 2 ^ exponent = 0
    · rw [zero]
      exact Nat.zero_le _
    · have bound : significand * 2 ^ exponent < 2 ^ (53 + exponent) := by
        rw [Nat.pow_add]
        exact Nat.mul_lt_mul_of_pos_right fits (Nat.two_pow_pos _)
      have bits := (Nat.log2_lt zero).mpr bound
      omega
  rw [roundUnits, if_neg small, Nat.mul_div_cancel _ positive]
  generalize Nat.log2 (significand * 2 ^ exponent) - 52 = kept at shift
  obtain ⟨more, rfl⟩ := Nat.exists_eq_add_of_le shift
  have parts : significand * 2 ^ (kept + more) = significand * 2 ^ more * 2 ^ kept := by
    rw [Nat.pow_add, Nat.mul_assoc, Nat.mul_comm (2 ^ kept)]
  have multiple : significand * 2 ^ (kept + more) * d =
      significand * 2 ^ more * (d * 2 ^ kept) := by
    rw [parts, Nat.mul_assoc, Nat.mul_comm (2 ^ kept)]
  have rounded : nearestEven (significand * 2 ^ (kept + more) * d) (d * 2 ^ kept) =
      significand * 2 ^ more := by
    rw [multiple, nearestEven_mul_right _ (Nat.mul_pos positive (Nat.two_pow_pos kept))]
  dsimp only
  rw [rounded, parts]
  split
  · next carried =>
    refine ⟨rfl, ?_⟩
    rw [carried, magnitudeUnits, ← Nat.pow_add, ← Nat.pow_add, Nat.add_left_comm,
      Nat.add_comm kept]
  · exact ⟨rfl, rfl⟩

/-- A rational number with a significand that fits is its own rounding. -/
theorem ofRat_exact {r : Rat} {significand exponent : Nat}
    (magnitude : |r| * oneUnits = (significand * 2 ^ exponent : Nat))
    (fits : significand < 2 ^ 53) (within : significand * 2 ^ exponent < overflowUnits) :
    (ofRat r).isFinite = true ∧ (ofRat r).toRat = r := by
  have scaled : r.num.natAbs * oneUnits = significand * 2 ^ exponent * r.den := by
    have parts : (r.num.natAbs : Rat) = |r| * r.den := by
      rw [Nat.cast_natAbs, Int.cast_abs, ← Rat.mul_den_eq_num, abs_mul, Nat.abs_cast]
    rw [← Nat.cast_inj (R := Rat), Nat.cast_mul, parts, mul_right_comm, magnitude, ← Nat.cast_mul]
  have kept := roundUnits_exact (decide (r.num < 0)) r.den_pos fits within
  rw [ofRat, ofQuotient, scaled]
  refine ⟨kept.1, ?_⟩
  rw [toRat_eq, isNegative_roundUnits, kept.2, ← magnitude,
    mul_div_cancel_right₀ _ oneUnits_pos.ne']
  split
  · next negative =>
    have below : r < 0 := Rat.num_neg.mp (of_decide_eq_true negative)
    rw [abs_of_neg below, neg_neg]
  · next natural =>
    have above : 0 ≤ r := by
      rw [← Rat.num_nonneg]
      simpa using natural
    exact abs_of_nonneg above

end Formula.Binary64
