/-! White space. The class is the one Unicode gives: the space separators and the characters
whose direction is white space, a paragraph separator or a segment separator. It therefore
contains the four information separators U+001C to U+001F and the no-break spaces. -/
namespace Formula.Text

def isBlank (c : Char) : Bool :=
  let n := c.toNat
  (0x09 ≤ n && n ≤ 0x0D) || (0x1C ≤ n && n ≤ 0x20) || n == 0x85 || n == 0xA0 || n == 0x1680 ||
    (0x2000 ≤ n && n ≤ 0x200A) || n == 0x2028 || n == 0x2029 || n == 0x202F || n == 0x205F ||
    n == 0x3000

/-- White space of ASCII text other than the information separators. -/
def isAsciiBlank (c : Char) : Bool :=
  let n := c.toNat
  (0x09 ≤ n && n ≤ 0x0D) || n == 0x20

/-- `text` without the characters of the class `p` at either end. -/
def trimBoth (p : Char → Bool) (text : List Char) : List Char :=
  ((text.dropWhile p).reverse.dropWhile p).reverse

/-- `text` without the white space at either end. -/
def strip (text : String) : String :=
  String.ofList (trimBoth isBlank text.toList)

end Formula.Text
