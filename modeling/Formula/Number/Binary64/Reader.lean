import Formula.Number.Binary64.Arithmetic
import Formula.Number.Numeral

/-! Reading binary64 numbers. A numeral is read as the number nearest to the decimal it denotes,
whatever its size; the words for what is not finite are read in any case. -/
namespace Formula.Binary64

/-- The number nearest to a numeral of the given sign. -/
def ofNumeral (negative : Bool) (n : Numeral) : Binary64 :=
  ofScientific negative n.coefficient n.power

/-- Reads a number: a numeral with single underscores between digits or a word, with a sign before
it and white space around it. -/
def read? (text : String) : Option Binary64 :=
  let body := Text.trimBoth Text.isAsciiBlank (Text.asciiNumeral text.toList)
  let (negative, magnitude) := Numeral.takeSign body
  let word := String.ofList (magnitude.map Char.toLower)
  if word = "inf" ∨ word = "infinity" then some (infinity negative)
  else if word = "nan" then some nan
  else
    (Numeral.dropSeparators? false magnitude).bind fun digits =>
      (Numeral.ofText? digits).map (ofNumeral negative)

end Formula.Binary64
