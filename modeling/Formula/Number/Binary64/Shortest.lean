import Formula.Number.Binary64.Arithmetic

/-! The shortest decimal that reads back, and its text. The decimals that round to a finite
number fill an interval between the midpoints to its neighbours, ends included when its
significand is even. Among the decimal grids, coarsest first, the first one with a point in that
interval gives the digits: one of the two grid points around the number, the nearer one if both
lie in the interval. -/
namespace Formula.Binary64

/-- The interval of decimals that round to `significand · 2 ^ exponent` units, in quarters of
`2 ^ exponent` units. Below a power of two the neighbours are half as far apart. -/
def readingInterval (significand exponent : Nat) : Nat × Nat :=
  (if significand = 2 ^ 52 ∧ 0 < exponent then 4 * significand - 1 else 4 * significand - 2,
    4 * significand + 2)

/-- The grid point `point · 10 ^ power` rounds to `significand · 2 ^ exponent` units. -/
def readsBack (significand exponent : Nat) (power : Int) (point : Nat) : Bool :=
  let (low, high) := readingInterval significand exponent
  let grid := 4 * point * oneUnits * 10 ^ power.toNat
  let unit := 2 ^ exponent * 10 ^ (-power).toNat
  if significand % 2 = 0 then low * unit ≤ grid && grid ≤ high * unit
  else low * unit < grid && grid < high * unit

/-- The nearest point on the grid of multiples of `10 ^ power` that rounds to
`significand · 2 ^ exponent` units, if one of the two around it does. -/
def gridPoint? (significand exponent : Nat) (power : Int) : Option Nat :=
  let n := significand * 2 ^ exponent * 10 ^ (-power).toNat
  let d := oneUnits * 10 ^ power.toNat
  let below := n / d
  let nearest := nearestEven n d
  let other := if nearest = below then below + 1 else below
  if readsBack significand exponent power nearest then some nearest
  else if readsBack significand exponent power other then some other
  else none

/-- First grid with a hit among `steps` grids from `power` downwards. -/
def searchGrids (significand exponent : Nat) : Nat → Int → Nat × Int
  | 0, power =>
    (significand * 2 ^ exponent * 10 ^ (-power).toNat / (oneUnits * 10 ^ power.toNat), power)
  | steps + 1, power =>
    match gridPoint? significand exponent power with
    | some point => (point, power)
    | none => searchGrids significand exponent steps (power - 1)

/-- Digits and power of ten of the shortest decimal that rounds to `significand · 2 ^ exponent`
units, for a positive significand. The search starts at a power of ten above the number; seventeen
digits always suffice. -/
def shortest (significand exponent : Nat) : Nat × Int :=
  let bits : Int := Nat.log2 significand + exponent - 1074
  searchGrids significand exponent 20 ((bits + 1) * 30103 / 100000 + 1)

/-- How a number is written: leading digits with a power of ten in `[positionalFrom,
positionalBelow)` in positional form, always with a fractional part, all others with an exponent
of at least `exponentDigits` digits. -/
structure Style where
  positionalFrom : Int
  positionalBelow : Int
  exponentDigits : Nat
  nan : String
  infinity : String

/-- Numbers between 10^-4 and 10^16 are written positionally. -/
def plainStyle : Style :=
  ⟨-4, 16, 2, "nan", "inf"⟩

/-- As the plain style, with the words of the JSON extension for what is not finite. -/
def jsonStyle : Style :=
  ⟨-4, 16, 2, "NaN", "Infinity"⟩

/-- The exponent part: a sign and at least `width` digits. -/
def exponentText (width : Nat) (exponent : Int) : List Char :=
  let digits := Nat.toDigits 10 exponent.natAbs
  'e' :: (if exponent < 0 then '-' else '+') ::
    (List.replicate (width - digits.length) '0' ++ digits)

/-- The decimal `0.d₁d₂… · 10 ^ point` of digits without trailing zeros. -/
def digitsText (style : Style) (digits : List Char) (point : Int) : List Char :=
  if style.positionalFrom < point ∧ point ≤ style.positionalBelow then
    if point ≤ 0 then
      '0' :: '.' :: (List.replicate (-point).toNat '0' ++ digits)
    else if digits.length ≤ point.toNat then
      digits ++ (List.replicate (point.toNat - digits.length) '0' ++ ['.', '0'])
    else
      digits.take point.toNat ++ ('.' :: digits.drop point.toNat)
  else
    match digits with
    | [] => []
    | [d] => d :: exponentText style.exponentDigits (point - 1)
    | d :: rest => d :: '.' :: (rest ++ exponentText style.exponentDigits (point - 1))

/-- The text of a number: the shortest decimal that reads back as the same number. -/
def text (style : Style) : Binary64 → String
  | nan => style.nan
  | infinity negative => if negative then "-" ++ style.infinity else style.infinity
  | finite negative significand exponent =>
    let sign := if negative then ['-'] else []
    if significand = 0 then
      String.ofList (sign ++ ['0', '.', '0'])
    else
      let (coefficient, power) := shortest significand exponent
      let digits := Nat.toDigits 10 coefficient
      String.ofList (sign ++ digitsText style digits (digits.length + power))

end Formula.Binary64
