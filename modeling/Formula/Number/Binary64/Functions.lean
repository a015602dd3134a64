import Formula.Number.Binary64.Arithmetic

/-! Functions on binary64 numbers that are defined exactly: their results are computed in integers
and rounded at most once. -/
namespace Formula.Binary64

def pi : Binary64 :=
  ofBits 0x400921FB54442D18

def exponentialBase : Binary64 :=
  ofBits 0x4005BF0A8B145769

def tau : Binary64 :=
  ofBits 0x401921FB54442D18

/-- A finite number as a mantissa of magnitude in [1/2, 1) and a power of two. -/
def mantissaExponent : Binary64 → Binary64 × Int
  | x@(finite negative significand exponent) =>
    if significand = 0 then (x, 0)
    else
      let bits := Nat.log2 significand + 1
      (ofQuotient negative significand (2 ^ bits), bits + exponent - 1074)
  | x => (x, 0)

/-- The number multiplied by a power of two. Powers beyond the whole range are not computed. -/
def scale (x : Binary64) (power : Int) : Binary64 :=
  match x with
  | finite negative significand _ =>
    if significand = 0 then x
    else if power > 5000 then infinity negative
    else if power < -5000 then finite negative 0 0
    else roundUnits negative (x.magnitudeUnits * 2 ^ power.toNat) (2 ^ (-power).toNat)
  | x => x

/-- The fractional and the integral part of a number, both with its sign. -/
def parts (x : Binary64) : Binary64 × Binary64 :=
  match x with
  | nan => (nan, nan)
  | infinity negative => (finite negative 0 0, x)
  | finite negative _ _ =>
    let fraction := x.magnitudeUnits % oneUnits
    (roundUnits negative fraction 1, roundUnits negative (x.magnitudeUnits - fraction) 1)

/-- Remainder of the division whose quotient is the nearest integer, ties to the even one. The
dividend is finite and the divisor is neither zero nor `nan`. -/
def nearestRemainder (x y : Binary64) : Binary64 :=
  if y.isInfinite then x
  else
    let n := x.magnitudeUnits
    let d := y.magnitudeUnits
    let below := n / d * d
    if nearestEven n d = n / d then roundUnits x.isNegative (n - below) 1
    else roundUnits (!x.isNegative) (below + d - n) 1

def next (x y : Binary64) : Binary64 :=
  match compare? x y with
  | none => nan
  | some .eq => y
  | some order =>
    if x.isZero then finite (order == .gt) 1 0
    else if (order == .lt) == x.isNegative then ofBits (x.toBits - 1)
    else ofBits (x.toBits + 1)

/-- The distance from a number's magnitude to the next greater one. -/
def spacing : Binary64 → Binary64
  | finite _ _ exponent => roundUnits false (2 ^ exponent) 1
  | x => x.abs

/-- The length of a vector: the square root of the sum of the squares, rounded once. -/
def length (coordinates : List Binary64) : Binary64 :=
  if coordinates.any isInfinite then infinity false
  else if coordinates.any isNaN then nan
  else
    let squares := coordinates.map fun x => x.magnitudeUnits * x.magnitudeUnits
    let square := squares.foldl (· + ·) 0 * 2 ^ 128
    let root := Nat.sqrt square
    roundUnits false (2 * root + if root * root = square then 0 else 1) (2 ^ 65)

/-- The numbers differ by no more than a share of the greater magnitude, or by no more than a
given distance. -/
def isNear (x y share distance : Binary64) : Bool :=
  if x.equals y then true
  else if x.isInfinite || y.isInfinite then false
  else
    let difference := (y.sub x).abs
    let atMost (bound : Binary64) : Bool := difference.less bound || difference.equals bound
    atMost (share.mul y).abs || atMost (share.mul x).abs || atMost distance

/-- A finite number rounded to a number of decimal places, ties to the even digit. -/
def roundPlaces (x : Binary64) (places : Int) : Binary64 :=
  if places > 400 then x
  else if places < -400 then finite x.isNegative 0 0
  else
    let n := x.magnitudeUnits * 10 ^ places.toNat
    let d := oneUnits * 10 ^ (-places).toNat
    ofScientific x.isNegative (nearestEven n d) (-places)

end Formula.Binary64
