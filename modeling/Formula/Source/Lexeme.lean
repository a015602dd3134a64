import Formula.Text.Blank

/-! Lexemes of expressions. A number begins with a digit, a name with a letter, and each extends
as far as it can; every other character that is no white space is a lexeme of its own. Division
into lexemes never fails: what has no place in an expression is found out by what reads them. -/
namespace Formula

inductive Lexeme where
  | number (text : List Char)
  | name (text : List Char)
  | mark (c : Char)
  deriving DecidableEq

/-- A lexeme with the position of its first character. -/
structure LocatedLexeme where
  lexeme : Lexeme
  position : Nat
  deriving DecidableEq

namespace Lexeme

def digits (text : List Char) : List Char :=
  text.takeWhile Char.isDigit

/-- A point and the digits after it, if a point is next. -/
def fraction : List Char → List Char
  | '.' :: rest => '.' :: digits rest
  | _ => []

/-- An exponent mark, a sign if there is one, and digits, if all that is next with at least one
digit. -/
def exponent : List Char → List Char
  | letter :: sign :: rest =>
    if letter = 'e' ∨ letter = 'E' then
      if sign.isDigit then letter :: sign :: digits rest
      else if (sign = '+' ∨ sign = '-') ∧ digits rest ≠ [] then letter :: sign :: digits rest
      else []
    else []
  | _ => []

/-- The longest number at the start of a text that begins with a digit. -/
def longestNumber (text : List Char) : List Char :=
  let whole := digits text
  let afterWhole := text.drop whole.length
  let point := fraction afterWhole
  let afterPoint := afterWhole.drop point.length
  whole ++ point ++ exponent afterPoint

/-- The lexeme at the start of a text that begins with the character `c` that is no white space,
and the number of its characters after the first one. -/
def first (c : Char) (rest : List Char) : Lexeme × Nat :=
  if c.isDigit then
    let text := longestNumber (c :: rest)
    (number text, text.length - 1)
  else if c.isAlpha then
    let text := c :: rest.takeWhile Char.isAlphanum
    (name text, text.length - 1)
  else (mark c, 0)

/-- The lexemes of a text whose first character has the given position. -/
def scan (position : Nat) : List Char → List LocatedLexeme
  | [] => []
  | c :: rest =>
    if Text.isBlank c then scan (position + 1) rest
    else
      let (lexeme, more) := first c rest
      ⟨lexeme, position⟩ :: scan (position + 1 + more) (rest.drop more)
termination_by text => text.length
decreasing_by
  · simp
  · simp only [List.length_drop, List.length_cons]
    omega

@[simp]
theorem scan_nil (position : Nat) : scan position [] = [] := by
  rw [scan.eq_def]

theorem scan_blank (position : Nat) {c : Char} (rest : List Char) (blank : Text.isBlank c = true) :
    scan position (c :: rest) = scan (position + 1) rest := by
  rw [scan.eq_def]
  exact if_pos blank

theorem scan_first (position : Nat) {c : Char} (rest : List Char)
    (blank : Text.isBlank c = false) :
    scan position (c :: rest) = ⟨(first c rest).1, position⟩ ::
      scan (position + 1 + (first c rest).2) (rest.drop (first c rest).2) := by
  rw [scan.eq_def]
  simp only [blank, Bool.false_eq_true, if_false]

end Lexeme

end Formula
