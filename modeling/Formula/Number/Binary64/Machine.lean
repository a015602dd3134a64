import Formula.Number.Binary64.Functions

/-! Elementary functions. Their values are those of the machine's library, whose results may differ
from the nearest number in the last place; everything around them is exact. -/
namespace Formula.Binary64

def machine (f : Float → Float) (x : Binary64) : Binary64 :=
  ofFloat (f x.toFloat)

def machine₂ (f : Float → Float → Float) (x y : Binary64) : Binary64 :=
  ofFloat (f x.toFloat y.toFloat)

def exp : Binary64 → Binary64 :=
  machine Float.exp

def log : Binary64 → Binary64 :=
  machine Float.log

def finitePower : Binary64 → Binary64 → Binary64 :=
  machine₂ Float.pow

/-- The logarithm of a positive integer of any size by the given function, which is used on the
integer itself if it is not too great, and else on its leading digits. -/
def logOfNat (f : Binary64 → Binary64) (n : Nat) : Binary64 :=
  let x := ofInt n
  if x.isFinite then f x
  else
    let bits := Nat.log2 n + 1
    let mantissa := ofQuotient false n (2 ^ bits)
    let two := ofInt 2
    if mantissa.equals one then (f (ofQuotient false 1 2)).add ((f two).mul (ofInt (bits + 1)))
    else (f mantissa).add ((f two).mul (ofInt bits))

end Formula.Binary64
