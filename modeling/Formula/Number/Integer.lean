import Formula.Number.Rounding

/-! Functions on integers: products of successive numbers, with the counts of selections that are
made of them, and powers in modular arithmetic. -/
namespace Formula.Integer

/-- Product of the `count` successive numbers from `first` on. Both halves have factors of one
size, which keeps great products cheap. -/
def rangeProduct (first count : Nat) : Nat :=
  if count = 0 then 1
  else if count = 1 then first
  else rangeProduct first (count / 2) * rangeProduct (first + count / 2) (count - count / 2)
termination_by count
decreasing_by all_goals omega

def factorial (n : Nat) : Nat :=
  rangeProduct 1 n

/-- Number of ordered selections of `k` among `n` things. -/
def arrangements (n k : Nat) : Nat :=
  if n < k then 0 else rangeProduct (n - k + 1) k

/-- Number of selections of `k` among `n` things. -/
def selections (n k : Nat) : Nat :=
  if n < k then 0
  else
    let fewer := min k (n - k)
    arrangements n fewer / factorial fewer

/-- The remainder of `base ^ exponent` by a positive modulus, by repeated squaring. -/
def powerRemainder (base exponent modulus : Nat) : Nat :=
  if exponent = 0 then 1 % modulus
  else
    let root := powerRemainder (base * base % modulus) (exponent / 2) modulus
    if exponent % 2 = 1 then base * root % modulus else root
termination_by exponent
decreasing_by omega

/-- The last remainder of Euclid's algorithm on `a` and `b` before zero, with its coefficient of
the number that `x` is the coefficient of in `a`, and `y` in `b`. -/
def bezout (a b : Nat) (x y : Int) : Nat × Int :=
  if b = 0 then (a, x) else bezout b (a % b) y (x - (a / b : Nat) * y)
termination_by b
decreasing_by exact Nat.mod_lt _ (by omega)

/-- The number whose product with `n` leaves the remainder one. -/
def inverse? (n modulus : Nat) : Option Nat :=
  let (divisor, coefficient) := bezout n modulus 1 0
  if divisor = 1 then some (coefficient.emod modulus).toNat else none

/-- The power of an integer by an integer in the arithmetic of a nonzero modulus. The result has
the sign of the modulus; a negative exponent needs an invertible base. -/
def modularPower? (base exponent modulus : Int) : Option Int :=
  let m := modulus.natAbs
  let reduced := (base.emod m).toNat
  (if exponent < 0 then inverse? reduced m else some reduced).map fun root =>
    let remainder := powerRemainder root exponent.natAbs m
    if modulus < 0 ∧ remainder ≠ 0 then (remainder : Int) - m else remainder

end Formula.Integer
