import Formula.Fault
import Formula.Text.Blank

/-! A reading position in a source. A cursor divides its source into the characters passed and
those still ahead; it moves forward only, and every character it moves over goes from the one part
to the other. Positions count characters from one. -/
namespace Formula

/-- A reading position: the characters passed, the last one first, the characters ahead, and the
name of the source. -/
structure Cursor where
  passed : List Char
  ahead : List Char
  name : String

namespace Cursor

def start (source name : String) : Cursor :=
  ⟨[], source.toList, name⟩

def source (c : Cursor) : List Char :=
  c.passed.reverse ++ c.ahead

def position (c : Cursor) : Nat :=
  c.passed.length + 1

def location (c : Cursor) : SourceLocation :=
  ⟨c.position, c.name⟩

def isAtEnd (c : Cursor) : Bool :=
  c.ahead.isEmpty

def peek (c : Cursor) : Except Fault Char :=
  match c.ahead with
  | next :: _ => .ok next
  | [] => .error (.expression (.endOfInput c.location))

/-- The next character, and the cursor behind it. -/
def advance (c : Cursor) : Except Fault (Char × Cursor) :=
  match c.ahead with
  | next :: rest => .ok (next, { c with passed := next :: c.passed, ahead := rest })
  | [] => .error (.expression (.endOfInput c.location))

/-- The character at a distance from the next one, or none past the end. A distance that reaches
before the first character counts back from the end of the source. -/
def peekAt (c : Cursor) (offset : Int) : Except Fault (Option Char) :=
  let index := c.passed.length + offset
  if 0 ≤ index then .ok c.source[index.toNat]?
  else
    match c.source.reverse[(-index - 1).toNat]? with
    | some found => .ok found
    | none => .error (.index "string")

/-- The next character is the given one, as a text of one character. -/
def isAt (c : Cursor) (expected : String) : Bool :=
  match c.ahead with
  | next :: _ => expected == next.toString
  | [] => false

/-- The cursor behind `count` characters, or at the end. -/
def skip (c : Cursor) (count : Nat) : Cursor :=
  { c with passed := (c.ahead.take count).reverse ++ c.passed, ahead := c.ahead.drop count }

def skipBlanks (c : Cursor) : Cursor :=
  c.skip (c.ahead.takeWhile Text.isBlank).length

theorem source_skip (c : Cursor) (count : Nat) : (c.skip count).source = c.source := by
  simp [source, skip, List.append_assoc]

/-- After white space is skipped, no white space is next. -/
theorem ahead_skipBlanks (c : Cursor) :
    c.skipBlanks.ahead = c.ahead.dropWhile Text.isBlank := by
  simp only [skipBlanks, skip]
  generalize c.ahead = text
  induction text with
  | nil => rfl
  | cons next rest ih =>
    by_cases h : Text.isBlank next = true
    · simpa [List.takeWhile_cons, List.dropWhile_cons, h] using ih
    · simp [h]

end Cursor

end Formula
