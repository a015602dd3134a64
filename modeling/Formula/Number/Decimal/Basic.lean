import Formula.Number.Rounding
import Formula.Text.Digit

/-! Decimal floating-point numbers: a coefficient with a power of ten, so that `1.50` and `1.5`
are equal numbers of different form. A number that is none may be signaling and carries a
payload of digits. -/
namespace Formula

/-- A decimal number; the finite one is `± coefficient · 10 ^ exponent`. -/
inductive Decimal where
  | finite (negative : Bool) (coefficient : Nat) (exponent : Int)
  | infinity (negative : Bool)
  | nan (negative signaling : Bool) (payload : Nat)
  deriving DecidableEq, Inhabited

namespace Decimal

def ofInt (n : Int) : Decimal :=
  finite (n < 0) n.natAbs 0

def isInfinite : Decimal → Bool
  | infinity _ => true
  | _ => false

def isZero : Decimal → Bool
  | finite _ coefficient _ => coefficient == 0
  | _ => false

def isNaN : Decimal → Bool
  | nan .. => true
  | _ => false

def isNegative : Decimal → Bool
  | finite negative _ _ => negative
  | infinity negative => negative
  | nan negative _ _ => negative

def withSign (negative : Bool) : Decimal → Decimal
  | finite _ coefficient exponent => finite negative coefficient exponent
  | infinity _ => infinity negative
  | nan _ signaling payload => nan negative signaling payload

/-- Order of the magnitudes of two finite numbers. The positions of the leading digits decide
unless they agree, and then the exponents differ by no more than the digit counts. -/
def compareMagnitude (c : Nat) (e : Int) (d : Nat) (f : Int) : Ordering :=
  if c = 0 ∨ d = 0 then compare c d
  else
    match compare (Text.digitCount c + e) (Text.digitCount d + f) with
    | .eq => compare (c * 10 ^ (e - f).toNat) (d * 10 ^ (f - e).toNat)
    | order => order

/-- What is not a number is unordered; zeros of either sign agree. -/
def compare? : Decimal → Decimal → Option Ordering
  | nan .., _ => none
  | _, nan .. => none
  | infinity a, infinity b => some (compare b.toNat a.toNat)
  | infinity a, finite .. => some (if a then .lt else .gt)
  | finite .., infinity b => some (if b then .gt else .lt)
  | finite a c e, finite b d f =>
    if c = 0 ∧ d = 0 then some .eq
    else if a && c != 0 then
      if b && d != 0 then some (compareMagnitude d f c e) else some .lt
    else if b && d != 0 then some .gt
    else some (compareMagnitude c e d f)

/-! ### Text -/

/-- The exponent part: a sign and the digits of the magnitude. -/
def exponentText (exponent : Int) : List Char :=
  'E' :: (if exponent < 0 then '-' else '+') :: Nat.toDigits 10 exponent.natAbs

/-- The magnitude of a finite number. It is positional if the exponent is not positive and the
leading digit stands at most six places after the point; otherwise one digit stands before the
point and an exponent follows. -/
def magnitudeText (coefficient : Nat) (exponent : Int) : List Char :=
  let digits := Nat.toDigits 10 coefficient
  let point := exponent + digits.length
  if exponent ≤ 0 ∧ -6 < point then
    if point ≤ 0 then '0' :: '.' :: (List.replicate (-point).toNat '0' ++ digits)
    else if exponent = 0 then digits
    else digits.take point.toNat ++ ('.' :: digits.drop point.toNat)
  else
    let fraction := digits.drop 1
    digits.take 1 ++ (if fraction.isEmpty then [] else '.' :: fraction) ++ exponentText (point - 1)

/-- The text of a number, which tells its form as well as its value. -/
def text (x : Decimal) : String :=
  let sign := if x.isNegative then "-" else ""
  match x with
  | finite _ coefficient exponent => sign ++ String.ofList (magnitudeText coefficient exponent)
  | infinity _ => sign ++ "Infinity"
  | nan _ signaling payload =>
    sign ++ (if signaling then "sNaN" else "NaN") ++ (if payload = 0 then "" else toString payload)

end Decimal

end Formula
