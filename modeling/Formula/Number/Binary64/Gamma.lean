import Formula.Number.Binary64.Machine

/-! The gamma function and its logarithm by Lanczos' approximation, a quotient of two polynomials of
degree twelve, in binary64 arithmetic. -/
namespace Formula.Binary64

def constant (digits : Nat) (places : Nat) : Binary64 :=
  ofScientific false digits (-(places : Int))

/-- Coefficients of the numerator, constant term first. -/
def lanczosNumerator : List Binary64 := [
  constant 23531376880410759688572007674451636754734846804940 39,
  constant 42919803642649098768957899047001988850926355848959 39,
  constant 35711959237355668049440185451547166705960488635843 39,
  constant 17921034426037209699919755754458931112671403265390 39,
  constant 60395425863520280050642916443072979210699388420708 40,
  constant 14397204073117216736632230727949123939715485786372 40,
  constant 24887455786205415651146038641322942321632125127801 41,
  constant 31426415585400194380614231628318205362874684987640 42,
  constant 28763706289353724412254090516208496135991145378768 43,
  constant 18605626539522349504029498971604569928220784236328 44,
  constant 80716720023658162106380029022722506138218516325024 46,
  constant 21082427775157934587250973392071336271166969580291 47,
  constant 25066282746310002701649081771338373386264310793408 49]

/-- Coefficients of the denominator, constant term first. -/
def lanczosDenominator : List Binary64 :=
  [0, 39916800, 120543840, 150917976, 105258076, 45995730, 13339535, 2637558, 357423, 32670, 1925,
    66, 1].map ofInt

def lanczosG : Binary64 :=
  constant 6024680040776729583740234375 27

/-- The approximation's parameter less one half. -/
def lanczosGMinusHalf : Binary64 :=
  constant 5524680040776729583740234375 27

/-- A polynomial by its coefficients, constant term first. -/
def polynomial (coefficients : List Binary64) (x : Binary64) : Binary64 :=
  coefficients.foldr (fun c total => (total.mul x).add c) zero

/-- A polynomial divided by the highest power of its argument. -/
def reversedPolynomial (coefficients : List Binary64) (x : Binary64) : Binary64 :=
  coefficients.foldl (fun total c => (total.div x).add c) zero

/-- The quotient of the two polynomials, evaluated in the direction that keeps it in range. -/
def lanczosSum (x : Binary64) : Binary64 :=
  if x.less (ofInt 5) then
    (polynomial lanczosNumerator x).div (polynomial lanczosDenominator x)
  else
    (reversedPolynomial lanczosNumerator x).div (reversedPolynomial lanczosDenominator x)

/-- Sine of a multiple of the circle number, exact in its reduction. -/
def sinPi (x : Binary64) : Binary64 :=
  let two := ofInt 2
  let y := remainder x.abs two
  let half := ofQuotient false 1 2
  let quarter := ((two.mul y).add half).floor
  let sine (z : Binary64) := machine Float.sin (pi.mul z)
  let cosine (z : Binary64) := machine Float.cos (pi.mul z)
  let r :=
    if quarter = 0 then sine y
    else if quarter = 1 then cosine (y.sub half)
    else if quarter = 2 then sine (one.sub y)
    else if quarter = 3 then (cosine (y.sub (constant 15 1))).negate
    else sine (y.sub two)
  if x.isNegative then r.negate else r

inductive GammaFault where
  | domain
  | range
  deriving DecidableEq

def smallFactorial (n : Nat) : Nat :=
  ((List.range n).map (· + 1)).foldl (· * ·) 1

/-- The gamma function at a finite number that is no integer from one to twenty-three and of
magnitude in [1e-20, 200]. -/
def gammaByLanczos (x : Binary64) : Except GammaFault Binary64 :=
  let magnitude := x.abs
  let half := ofQuotient false 1 2
  let y := magnitude.add lanczosGMinusHalf
  let z :=
    if lanczosGMinusHalf.less magnitude then (y.sub magnitude).sub lanczosGMinusHalf
    else (y.sub lanczosGMinusHalf).sub magnitude
  let z := (z.mul lanczosG).div y
  let limit := ofInt 140
  if x.isNegative then
    let r := ((((pi.negate.div (sinPi magnitude)).div magnitude).mul (exp y)).div
      (lanczosSum magnitude))
    let r := r.sub (z.mul r)
    let r :=
      if magnitude.less limit then r.div (finitePower y (magnitude.sub half))
      else
        let root := finitePower y ((magnitude.div (ofInt 2)).sub (ofQuotient false 1 4))
        (r.div root).div root
    if r.isInfinite then .error .range else .ok r
  else
    let r := (lanczosSum magnitude).div (exp y)
    let r := r.add (z.mul r)
    let r :=
      if magnitude.less limit then r.mul (finitePower y (magnitude.sub half))
      else
        let root := finitePower y ((magnitude.div (ofInt 2)).sub (ofQuotient false 1 4))
        (r.mul root).mul root
    if r.isInfinite then .error .range else .ok r

/-- The gamma function. It has no value at the integers below one and no finite one where its
values are too great. -/
def gamma (x : Binary64) : Except GammaFault Binary64 :=
  match x with
  | nan => .ok nan
  | infinity negative => if negative then .error .domain else .ok x
  | finite negative _ _ =>
    if x.isZero then .error .domain
    else if x.isInteger && negative then .error .domain
    else if x.isInteger && !(ofInt 23).less x then
      .ok (ofInt (smallFactorial (x.floor.toNat - 1)))
    else if x.abs.less (constant 1 20) then
      let r := one.div x
      if r.isInfinite then .error .range else .ok r
    else if (ofInt 200).less x.abs then
      if negative then .ok (zero.div (sinPi x)) else .error .range
    else gammaByLanczos x

/-- The logarithm of the magnitude of the gamma function. -/
def logGamma (x : Binary64) : Except GammaFault Binary64 :=
  match x with
  | nan => .ok nan
  | infinity _ => .ok (infinity false)
  | finite negative _ _ =>
    let half := ofQuotient false 1 2
    let magnitude := x.abs
    if x.isInteger && !(ofInt 2).less x then
      if !(one.less x || x.equals one) then .error .domain else .ok zero
    else if magnitude.less (constant 1 20) then .ok (log magnitude).negate
    else
      let r := (log (lanczosSum magnitude)).sub lanczosG
      let r := r.add ((magnitude.sub half).mul
        ((log ((magnitude.add lanczosG).sub half)).sub one))
      let r :=
        if negative then
          ((log pi).sub (log (sinPi magnitude).abs)).sub (log magnitude) |>.sub r
        else r
      if r.isInfinite then .error .range else .ok r

end Formula.Binary64
