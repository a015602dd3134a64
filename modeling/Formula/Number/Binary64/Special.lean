import Formula.Number.Binary64.Arithmetic
import Formula.Number.Series

/-! Functions whose values are rounded from series of sufficient precision: the exponential less
one, the logarithm of one plus a number, and the error functions. Where the first term of a series
decides the result, it is the result. -/
namespace Formula.Binary64

/-- The number nearest to a number with `bits` binary places. -/
def ofFixed (bits : Nat) (x : Int) : Binary64 :=
  ofQuotient (x < 0) x.natAbs (2 ^ bits)

def toFixed (bits : Nat) (x : Binary64) : Int :=
  x.units * 2 ^ bits / oneUnits

/-- Places that are enough for the functions of this module near zero and in the middle range. -/
def places : Nat :=
  400

/-- The magnitude is so small that a function is told from its argument by no binary64 number. -/
def isTiny (x : Binary64) : Bool :=
  x.magnitudeUnits < 2 ^ (1074 - 60)

def expm1 : Binary64 → Binary64
  | nan => nan
  | infinity negative => if negative then one.negate else infinity false
  | x@(finite negative _ _) =>
    if x.isTiny then x
    else if x.magnitudeUnits ≥ 800 * oneUnits then
      if negative then one.negate else infinity false
    else ofFixed places (Series.exp places (x.toFixed places) - 2 ^ places)

/-- The logarithm of one plus a number; it has none at minus one and below. -/
def log1p : Binary64 → Binary64
  | nan => nan
  | infinity negative => if negative then nan else infinity false
  | x@(finite ..) =>
    if x.isTiny then x
    else
      let n := x.units + oneUnits
      if n < 0 then nan
      else if n = 0 then infinity true
      else ofFixed places (Series.log places n.toNat oneUnits)

def erf : Binary64 → Binary64
  | nan => nan
  | infinity negative => one.withSign negative
  | x@(finite negative _ _) =>
    if x.magnitudeUnits ≥ 7 * oneUnits then one.withSign negative
    else if x.isZero then x
    else
      let bits := places + (if x.isTiny then 1100 else 0)
      ofFixed bits (Series.erf bits (x.toFixed bits))

/-- The complement of the error function to one. -/
def erfc : Binary64 → Binary64
  | nan => nan
  | infinity negative => if negative then ofInt 2 else zero
  | x@(finite negative _ _) =>
    if negative then
      if x.magnitudeUnits ≥ 7 * oneUnits then ofInt 2
      else ofFixed places (2 ^ places - Series.erf places (x.toFixed places))
    else if x.magnitudeUnits ≥ 28 * oneUnits then zero
    else
      let bits := if x.magnitudeUnits < 4 * oneUnits then places else 2600
      ofFixed bits (2 ^ bits - Series.erf bits (x.toFixed bits))

end Formula.Binary64
