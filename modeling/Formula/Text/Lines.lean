/-! Lines of text. A line ends with a line break of any kind: line feed, carriage return, both of
them in this order, vertical tabulator, form feed, one of three information separators, the control
character for the next line, or the separators of lines and paragraphs. -/
namespace Formula.Text

def isLineBreak (c : Char) : Bool :=
  let n := c.toNat
  (0x0A ≤ n && n ≤ 0x0D) || (0x1C ≤ n && n ≤ 0x1E) || n == 0x85 || n == 0x2028 || n == 0x2029

/-- The lines of a text without their breaks; a break at the end begins no further line. -/
def lines : List Char → List (List Char)
  | [] => []
  | '\r' :: '\n' :: rest => [] :: lines rest
  | c :: rest =>
    if isLineBreak c then [] :: lines rest
    else
      match lines rest with
      | [] => [[c]]
      | line :: others => (c :: line) :: others

end Formula.Text
