import Formula.Number.Rounding

/-! Binary64 numbers as exact data. A finite number is an integer multiple of the least positive
one, 2^-1074, and everything about it is computed in `Nat` and `Int`: nothing here depends on
machine arithmetic. The last section packs a number into its 64-bit word, for the elementary
functions that are left to the machine. -/
namespace Formula

/-- A binary64 number. The finite one with the given sign has magnitude
`significand · 2 ^ (exponent - 1074)`. Rounding produces significands below `2 ^ 53`, and below
`2 ^ 52` only with the exponent zero, so that equal finite numbers have equal forms up to the
sign of zero. -/
inductive Binary64 where
  | nan
  | infinity (negative : Bool)
  | finite (negative : Bool) (significand exponent : Nat)
  deriving DecidableEq, Inhabited

namespace Binary64

def zero : Binary64 :=
  .finite false 0 0

def oneUnits : Nat :=
  2 ^ 1074

def one : Binary64 :=
  .finite false (2 ^ 52) 1022

def isNaN : Binary64 → Bool
  | nan => true
  | _ => false

def isInfinite : Binary64 → Bool
  | infinity _ => true
  | _ => false

/-- The number is neither infinite nor not a number. -/
def isFinite : Binary64 → Bool
  | finite .. => true
  | _ => false

def isZero : Binary64 → Bool
  | finite _ significand _ => significand == 0
  | _ => false

/-- The sign is negative; a negative zero has a negative sign, `nan` has none. -/
def isNegative : Binary64 → Bool
  | nan => false
  | infinity negative => negative
  | finite negative _ _ => negative

def negate : Binary64 → Binary64
  | nan => nan
  | infinity negative => infinity (!negative)
  | finite negative significand exponent => finite (!negative) significand exponent

def withSign (negative : Bool) : Binary64 → Binary64
  | nan => nan
  | infinity _ => infinity negative
  | finite _ significand exponent => finite negative significand exponent

def abs : Binary64 → Binary64 :=
  withSign false

/-- Magnitude of a finite number in multiples of the least positive one. -/
def magnitudeUnits : Binary64 → Nat
  | finite _ significand exponent => significand * 2 ^ exponent
  | _ => 0

/-- A finite number in multiples of the least positive one. -/
def units (x : Binary64) : Int :=
  if x.isNegative then -(x.magnitudeUnits : Int) else x.magnitudeUnits

/-- The rational number that a finite number is. -/
def toRat (x : Binary64) : Rat :=
  mkRat x.units oneUnits

/-- `nan` is unordered; the infinities bound the finite numbers; zeros of either sign agree. -/
def compare? : Binary64 → Binary64 → Option Ordering
  | nan, _ => none
  | _, nan => none
  | infinity a, infinity b => some (compare b.toNat a.toNat)
  | infinity a, finite .. => some (if a then .lt else .gt)
  | finite .., infinity b => some (if b then .gt else .lt)
  | x@(finite ..), y@(finite ..) => some (compare x.units y.units)

def equals (x y : Binary64) : Bool :=
  compare? x y == some .eq

def less (x y : Binary64) : Bool :=
  compare? x y == some .lt

/-- Greatest integer not above a finite number. -/
def floor (x : Binary64) : Int :=
  x.units.fdiv oneUnits

/-- A finite number without its fractional part. -/
def truncate (x : Binary64) : Int :=
  x.units.tdiv oneUnits

def isInteger (x : Binary64) : Bool :=
  x.isFinite && x.magnitudeUnits % oneUnits == 0

/-! ### The 64-bit word -/

/-- The interchange word: sign, eleven exponent bits, fifty-two fraction bits. -/
def toBits : Binary64 → UInt64
  | nan => 0x7FF8000000000000
  | infinity negative => UInt64.ofNat (negative.toNat * 2 ^ 63 + 2047 * 2 ^ 52)
  | finite negative significand exponent =>
    let packed := if significand < 2 ^ 52 then significand
      else (exponent + 1) * 2 ^ 52 + (significand - 2 ^ 52)
    UInt64.ofNat (negative.toNat * 2 ^ 63 + packed)

/-- The number that an interchange word stands for. -/
def ofBits (word : UInt64) : Binary64 :=
  let bits := word.toNat
  let negative := bits / 2 ^ 63 == 1
  let field := bits / 2 ^ 52 % 2048
  let fraction := bits % 2 ^ 52
  if field == 2047 then
    if fraction == 0 then infinity negative else nan
  else if field == 0 then
    finite negative fraction 0
  else
    finite negative (fraction + 2 ^ 52) (field - 1)

def toFloat (x : Binary64) : Float :=
  Float.ofBits x.toBits

def ofFloat (x : Float) : Binary64 :=
  ofBits x.toBits

end Binary64

end Formula
