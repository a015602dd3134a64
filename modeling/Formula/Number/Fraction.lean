import Formula.Number.Numeral

/-! Fractions. A fraction is a rational number; it is read from a quotient of two natural numbers
or from a numeral, and written in lowest terms, as an integer if it is one. -/
namespace Formula.Fraction

/-- The leading digits with single underscores between them, which are left out, and what follows
them; an underscore at the start is admitted only after a digit. -/
def takeGroupAfter (afterDigit : Bool) : List Char → List Char × List Char
  | [] => ([], [])
  | '_' :: c :: rest =>
    if afterDigit && c.isDigit then
      let (digits, after) := takeGroupAfter true rest
      (c :: digits, after)
    else ([], '_' :: c :: rest)
  | c :: rest =>
    if c.isDigit then
      let (digits, after) := takeGroupAfter true rest
      (c :: digits, after)
    else ([], c :: rest)

/-- The leading group of digits, and what follows it. -/
def takeGroup (text : List Char) : List Char × List Char :=
  takeGroupAfter false text

/-- The number of a group of digits, which may be empty but not longer than the limit. -/
def groupValue? (digits : List Char) : Option Nat :=
  if digitLimit < digits.length then none else some (Numeral.natOfDigits digits)

/-- The power of ten after a numeral, which may be missing. -/
def exponent? : List Char → Option Int
  | [] => some 0
  | c :: rest =>
    if c = 'e' ∨ c = 'E' then
      let (negative, magnitude) := Numeral.takeSign rest
      let (digits, after) := takeGroup magnitude
      if digits.isEmpty || !after.isEmpty then none
      else (groupValue? digits).map fun n => if negative then -(n : Int) else n
    else none

def magnitude? (text : List Char) : Option Rat :=
  let (whole, rest) := takeGroup text
  match rest with
  | '/' :: denominator =>
    let (digits, after) := takeGroup denominator
    if whole.isEmpty || digits.isEmpty || !after.isEmpty then none
    else do
      let n ← groupValue? whole
      let d ← groupValue? digits
      if d = 0 then none else some (mkRat n d)
  | _ =>
    let (places, after) :=
      match rest with
      | '.' :: fraction => takeGroup fraction
      | _ => ([], rest)
    if whole.isEmpty && places.isEmpty then none
    else do
      let n ← groupValue? whole
      let f ← groupValue? places
      let e ← exponent? after
      some (mkRat (n * 10 ^ places.length + f) (10 ^ places.length) *
        (if e < 0 then mkRat 1 (10 ^ (-e).toNat) else (10 ^ e.toNat : Nat)))

/-- Reads a fraction with a sign before it and white space around it. -/
def read? (text : String) : Option Rat :=
  let body := Text.asciiNumeral (Text.trimBoth Text.isBlank text.toList)
  let (negative, magnitude) := Numeral.takeSign body
  (magnitude? magnitude).map fun q => if negative then -q else q

end Formula.Fraction
