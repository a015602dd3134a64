import Formula.Number.Rounding

/-! Power series in fixed point. A real number is held as an integer multiple of a small power of
two, so fine that the errors made in the last places do not reach the result that is rounded from
it. -/
namespace Formula.Series

/-- Product of two numbers with `bits` binary places. -/
def mul (bits : Nat) (x y : Int) : Int :=
  (x * y) / 2 ^ bits

/-- Quotient of two numbers with `bits` binary places. -/
def div (bits : Nat) (x y : Int) : Int :=
  x * 2 ^ bits / y

/-- Sum of the terms of a series whose term `n + 1` is `step n` of the term `n`, until a term is
zero or `count` terms are taken. -/
def sum (step : Nat → Int → Int) : Nat → Nat → Int → Int
  | 0, _, _ => 0
  | count + 1, n, term => if term = 0 then 0 else term + sum step count (n + 1) (step n term)

/-- The exponential of a number of magnitude at most one. -/
def expSmall (bits : Nat) (x : Int) : Int :=
  sum (fun n term => mul bits term x / (n + 1)) (bits + 10) 0 (2 ^ bits)

/-- Twice the inverse hyperbolic tangent of a number of magnitude at most one half: the logarithm
of the quotient of one plus and one minus the number. -/
def twiceArtanh (bits : Nat) (x : Int) : Int :=
  let square := mul bits x x
  let rec go : Nat → Nat → Int → Int
    | 0, _, _ => 0
    | count + 1, n, power =>
      if power = 0 then 0 else power / (2 * n + 1) + go count (n + 1) (mul bits power square)
  2 * go bits 0 x

def logTwo (bits : Nat) : Int :=
  twiceArtanh bits (2 ^ bits / 3)

/-- The natural logarithm of the positive quotient `n / d`. -/
def log (bits : Nat) (n d : Nat) : Int :=
  let power : Int := (Nat.log2 n : Int) - Nat.log2 d
  let n' : Int := n * 2 ^ (-power).toNat
  let d' : Int := d * 2 ^ power.toNat
  twiceArtanh bits (div bits (n' - d') (n' + d')) + power * logTwo bits

/-- The exponential of a number with `bits` binary places. -/
def exp (bits : Nat) (x : Int) : Int :=
  let unit := logTwo bits
  let power := x / unit
  let reduced := expSmall bits (x - power * unit)
  reduced * 2 ^ power.toNat / 2 ^ (-power).toNat

def arctanInverse (bits n : Nat) : Int :=
  let rec go : Nat → Nat → Int → Int
    | 0, _, _ => 0
    | count + 1, k, power =>
      if power = 0 then 0
      else (if k % 2 = 0 then 1 else -1) * (power / (2 * k + 1)) +
        go count (k + 1) (power / (n * n))
  go bits 0 (2 ^ bits / n)

def pi (bits : Nat) : Int :=
  4 * (4 * arctanInverse bits 5 - arctanInverse bits 239)

/-- The error function: the integral of the bell curve from zero to `x`, normalized. -/
def erf (bits : Nat) (x : Int) : Int :=
  let square := mul bits x x
  let rec go : Nat → Nat → Int → Int
    | 0, _, _ => 0
    | count + 1, n, power =>
      if power = 0 then 0
      else power / (2 * n + 1) + go count (n + 1) (-(mul bits power square / (n + 1)))
  let rootPi : Int := Nat.sqrt ((pi bits).toNat * 2 ^ bits)
  div bits (2 * go (8 * bits) 0 x) rootPi

end Formula.Series
