/-! Rounding a quotient of natural numbers to an integer. Every rounding of this library, binary
or decimal, is this one on a scaled quotient. -/
namespace Formula

/-- Powers are those of the core library, whatever others are declared. -/
@[default_instance 20000]
instance (priority := high) corePower [NatPow α] : Pow α Nat :=
  instPowNat

/-- The integer nearest to `n / d`, ties to the even one. -/
def nearestEven (n d : Nat) : Nat :=
  if 2 * (n % d) < d then n / d
  else if d < 2 * (n % d) then n / d + 1
  else n / d + n / d % 2

/-- A multiple of the divisor is its own quotient. -/
theorem nearestEven_mul_right (q : Nat) {d : Nat} (h : 0 < d) : nearestEven (q * d) d = q := by
  simp [nearestEven, h]

end Formula
