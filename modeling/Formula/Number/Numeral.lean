import Formula.Number.Rounding
import Formula.Text.Digit

/-! Numerals as they are written: a sign, digits around a point and a power of ten. The readers of
the four kinds of numbers share these pieces and differ in what else they admit. An integer text
may have at most `digitLimit` digits, in reading as in writing. -/
namespace Formula

/-- The greatest number of digits that an integer is read from or written with. -/
def digitLimit : Nat :=
  4300

namespace Numeral

def takeSign : List Char → Bool × List Char
  | '-' :: rest => (true, rest)
  | '+' :: rest => (false, rest)
  | text => (false, text)

def takeDigits (text : List Char) : List Char × List Char :=
  text.span Char.isDigit

/-- The text without its underscores, each of which has to stand between two digits. -/
def dropSeparators? (afterDigit : Bool) : List Char → Option (List Char)
  | [] => some []
  | '_' :: c :: rest =>
    if afterDigit && c.isDigit then (dropSeparators? true rest).map (c :: ·) else none
  | c :: rest => if c = '_' then none else (dropSeparators? c.isDigit rest).map (c :: ·)

def natOfDigits (digits : List Char) : Nat :=
  Nat.ofDigitChars 10 digits 0

/-- An integer whose digits are all the text after the sign. -/
def intOfDigits? (text : List Char) : Option Int :=
  let (negative, digits) := takeSign text
  if digits.isEmpty || !digits.all Char.isDigit then none
  else some (if negative then -(natOfDigits digits : Int) else natOfDigits digits)

end Numeral

/-- An unsigned numeral: digits before and after the point, and an exponent. -/
structure Numeral where
  whole : List Char
  fraction : List Char
  exponent : Int

namespace Numeral

/-- The integer that the digits form when the point is left out. -/
def coefficient (n : Numeral) : Nat :=
  natOfDigits (n.whole ++ n.fraction)

/-- The power of ten that the coefficient is multiplied by. -/
def power (n : Numeral) : Int :=
  n.exponent - n.fraction.length

/-- The exponent part of a numeral, which may be empty. -/
def exponent? : List Char → Option Int
  | [] => some 0
  | c :: rest => if c = 'e' ∨ c = 'E' then intOfDigits? rest else none

/-- Reads a text that is an unsigned numeral with at least one digit beside its point. -/
def ofText? (text : List Char) : Option Numeral :=
  let (whole, afterWhole) := takeDigits text
  let (fraction, afterFraction) :=
    match afterWhole with
    | '.' :: rest => takeDigits rest
    | rest => ([], rest)
  if whole.isEmpty && fraction.isEmpty then none
  else (exponent? afterFraction).map fun exponent => ⟨whole, fraction, exponent⟩

end Numeral

/-- Reads an integer: digits of any set of numerals, with single underscores between them and white
space around them. -/
def readInt? (text : String) : Option Int :=
  let body := Text.trimBoth Text.isAsciiBlank (Text.asciiNumeral text.toList)
  let (_, magnitude) := Numeral.takeSign body
  match Numeral.dropSeparators? false body with
  | none => none
  | some digits =>
    if digitLimit < (magnitude.filter Char.isDigit).length then none
    else Numeral.intOfDigits? digits

end Formula
