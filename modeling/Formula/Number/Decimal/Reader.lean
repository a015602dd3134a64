import Formula.Number.Decimal.Basic
import Formula.Number.Numeral

/-! Reading decimal numbers. A numeral keeps its form: the coefficient has its digits and the
exponent its places. Exponents are bounded only by what can be held, far beyond the range of
arithmetic. -/
namespace Formula.Decimal

/-- The greatest exponent of a leading digit that can be held. -/
def greatestHeld : Int :=
  999999999999999999

/-- The least exponent of a coefficient that can be held. -/
def leastHeld : Int :=
  -1999999999999999997

/-- The number of the given form, if it can be held. -/
def held? (negative : Bool) (coefficient : Nat) (exponent : Int) : Option Decimal :=
  let leading := if coefficient = 0 then exponent else exponent + Text.digitCount coefficient - 1
  if leastHeld ≤ exponent ∧ leading ≤ greatestHeld then some (finite negative coefficient exponent)
  else none

/-- The payload after the word for what is not a number. -/
def payload? (digits : List Char) : Option Nat :=
  if digits.all Char.isDigit then some (Numeral.natOfDigits digits) else none

/-- Reads a number: a numeral or a word, with a sign before it and white space around it.
Underscores are left out wherever they stand. -/
def read? (text : String) : Option Decimal :=
  let kept := (Text.trimBoth Text.isBlank text.toList).filter (· != '_')
  let (negative, magnitude) := Numeral.takeSign (Text.asciiNumeral kept)
  match magnitude.map Char.toLower with
  | ['i', 'n', 'f'] => some (infinity negative)
  | ['i', 'n', 'f', 'i', 'n', 'i', 't', 'y'] => some (infinity negative)
  | 'n' :: 'a' :: 'n' :: digits => (payload? digits).map (nan negative false)
  | 's' :: 'n' :: 'a' :: 'n' :: digits => (payload? digits).map (nan negative true)
  | numeral => (Numeral.ofText? numeral).bind fun n => held? negative n.coefficient n.power

end Formula.Decimal
