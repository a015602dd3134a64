import Formula.Fault
import Formula.Text.Decoding

/-! Places in a YAML text. Structure depends on lines and columns, so reading keeps track of both. A
line ends with a line feed, or with one of the two separators of lines and paragraphs, which unlike
a line feed are part of the text that they end. -/
namespace Formula.Yaml

def malformed : Except Unread α :=
  .error .malformed

def noValue (message : String) : Except Unread α :=
  .error (.fault (.value (.argument message)))

def isOneOf (chars : String) (c : Char) : Bool :=
  chars.toList.contains c

def isBreak (c : Char) : Bool :=
  c == '\n' || c == '\u2028' || c == '\u2029'

def isWhite (c : Char) : Bool :=
  c == ' ' || c == '\t'

def endsLine : Option Char → Bool
  | none => true
  | some c => isBreak c

/-- At a blank, or at the end of a line or of the text. -/
def isBlankOrEnd : Option Char → Bool
  | none => true
  | some c => c == ' ' || isBreak c

/-- At a blank or tabulator, or at the end of a line or of the text. -/
def isWhiteOrEnd : Option Char → Bool
  | none => true
  | some c => isWhite c || isBreak c

/-- The mark at the start of a text that tells its encoding. -/
def byteOrderMark : Char :=
  '\uFEFF'

def isAdmitted (c : Char) : Bool :=
  c == '\t' || c == '\n' || c == '\r' || c == '\u0085' || (' ' ≤ c && c ≤ '~') ||
    ('\u00A0' ≤ c && c ≤ '\uFFFD') || 0x10000 ≤ c.toNat

/-- A place: what follows it, how many characters precede it, and its line and column. -/
structure Place where
  rest : List Char
  index : Nat
  line : Nat
  column : Nat

namespace Place

def start (text : List Char) : Place :=
  ⟨text, 0, 0, 0⟩

def ahead (p : Place) (distance : Nat) : Option Char :=
  p.rest[distance]?

def peek (p : Place) : Option Char :=
  p.rest.head?

def forward (p : Place) : Place :=
  match p.rest with
  | [] => p
  | c :: rest =>
    if isBreak c then ⟨rest, p.index + 1, p.line + 1, 0⟩
    else ⟨rest, p.index + 1, p.line, if c = byteOrderMark then p.column else p.column + 1⟩

def advance (p : Place) : Nat → Place
  | 0 => p
  | count + 1 => p.forward.advance count

/-- The following characters with a property, and the place after them. -/
def takeWhile (p : Place) (test : Char → Bool) : List Char × Place :=
  let chars := p.rest.takeWhile test
  (chars, p.advance chars.length)

/-- The place after the following characters with a property. -/
def skipWhile (p : Place) (test : Char → Bool) : Place :=
  (p.takeWhile test).2

def skipBlanks (p : Place) : Place :=
  p.skipWhile (· == ' ')

/-- The place after a comment, if there is one. -/
def skipComment (p : Place) : Place :=
  if p.peek = some '#' then p.skipWhile (!isBreak ·) else p

/-- The place after the end of a line, if the place is there. -/
def skipBreak (p : Place) : Place :=
  if p.peek.any isBreak then p.forward else p

/-- A line of nothing but one of the two marks that set documents apart begins here. -/
def atDocumentMark (p : Place) : Bool :=
  (['-', '-', '-'].isPrefixOf p.rest || ['.', '.', '.'].isPrefixOf p.rest) &&
    isWhiteOrEnd (p.ahead 3)

/-- The place after the rest of a line that holds at most blanks and a comment. -/
def skipEmptyRest (p : Place) : Except Unread Place :=
  let p := p.skipBlanks.skipComment
  if endsLine p.peek then .ok p.skipBreak else malformed

end Place

/-- The text of a line end together with the further line ends after it: a line feed alone is a
blank. -/
def folded (lineEnd : Char) (further : List Char) : List Char :=
  if lineEnd ≠ '\n' then lineEnd :: further
  else if further.isEmpty then [' ']
  else further

end Formula.Yaml
