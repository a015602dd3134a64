import Formula.Json.Reader
import Formula.Yaml.Place

/-! Scalars of a YAML text: plain ones, quoted ones, and blocks of lines. Lines of plain and quoted
scalars are folded, which makes a blank of a single line end; in blocks the line ends are kept or
folded as their header says. Every loop takes characters, so the length of the text is enough
fuel. -/
namespace Formula.Yaml

namespace Place

/-! ### Quoted scalars -/

/-- The line ends from the start of a line on, with white space between them left out. No mark that
sets documents apart may stand there. -/
def takeQuotedBreaks : Nat → Place → Except Unread (List Char × Place)
  | 0, _ => malformed
  | fuel + 1, p =>
    if p.atDocumentMark then malformed
    else
      let p := p.skipWhile isWhite
      match p.peek with
      | some c =>
        if isBreak c then do
          let (further, after) ← takeQuotedBreaks fuel p.forward
          .ok (c :: further, after)
        else .ok ([], p)
      | none => .ok ([], p)

/-- The character that a letter after a backslash stands for. -/
def escape? : Char → Option Char
  | '0' => some '\x00'
  | 'a' => some '\x07'
  | 'b' => some '\x08'
  | 't' => some '\t'
  | '\t' => some '\t'
  | 'n' => some '\n'
  | 'v' => some '\x0b'
  | 'f' => some '\x0c'
  | 'r' => some '\r'
  | 'e' => some '\x1b'
  | ' ' => some ' '
  | '"' => some '"'
  | '\\' => some '\\'
  | '/' => some '/'
  | 'N' => some '\u0085'
  | '_' => some '\u00A0'
  | 'L' => some '\u2028'
  | 'P' => some '\u2029'
  | _ => none

/-- The number of hexadecimal digits after a letter that stands behind a backslash. -/
def escapeDigits? : Char → Option Nat
  | 'x' => some 2
  | 'u' => some 4
  | 'U' => some 8
  | _ => none

def hexNumber? (digits : List Char) : Option Nat :=
  digits.foldlM (fun n c => (Json.hexValue? c).map (n * 16 + ·)) 0

/-- The character of a code point. A surrogate stands for no character and is replaced. -/
def characterOf (code : Nat) : Except Unread Char :=
  if code < 0x110000 then
    .ok (if 0xD800 ≤ code ∧ code < 0xE000 then '\uFFFD' else Char.ofNat code)
  else if code < 2 ^ 31 then
    .error (.fault (.value (.argument "chr() arg not in range(0x110000)")))
  else .error (.fault (.overflow (.argument "Python int too large to convert to C int")))

/-- The characters that an escape stands for, of which the place is after the backslash. -/
def takeEscape (fuel : Nat) (p : Place) : Except Unread (List Char × Place) :=
  match p.peek with
  | none => malformed
  | some c =>
    match escape? c, escapeDigits? c with
    | some meant, _ => .ok ([meant], p.forward)
    | none, some count =>
      let digits := p.rest.tail.take count
      match if digits.length = count then hexNumber? digits else none with
      | some code => do
        let meant ← characterOf code
        .ok ([meant], p.advance (count + 1))
      | none => malformed
    | none, none => if isBreak c then takeQuotedBreaks fuel p.forward else malformed

/-- The characters of a quoted scalar after its opening quote, and the place after the closing one.
Between single quotes, two of them stand for one. -/
def takeQuoted (double : Bool) : Nat → Place → Except Unread (List Char × Place)
  | 0, _ => malformed
  | fuel + 1, p =>
    match p.peek with
    | none => malformed
    | some c =>
      if isWhite c || isBreak c then do
        let (white, edge) := p.takeWhile isWhite
        let (chars, after) ← match edge.peek with
          | some d =>
            if isBreak d then do
              let (further, after) ← takeQuotedBreaks fuel edge.forward
              pure (folded d further, after)
            else pure (white, edge)
          | none => malformed
        let (others, final) ← takeQuoted double fuel after
        .ok (chars ++ others, final)
      else if c = (if double then '"' else '\'') then
        if !double && p.ahead 1 == some '\'' then do
          let (others, final) ← takeQuoted double fuel (p.advance 2)
          .ok (c :: others, final)
        else .ok ([], p.forward)
      else if double && c == '\\' then do
        let (chars, after) ← takeEscape fuel p.forward
        let (others, final) ← takeQuoted double fuel after
        .ok (chars ++ others, final)
      else do
        let (others, final) ← takeQuoted double fuel p.forward
        .ok (c :: others, final)

/-! ### Plain scalars -/

/-- A character ends a plain scalar, whether it stands inside brackets or not; `next` follows it. -/
def endsPlain (inFlow : Bool) (c : Char) (next : Option Char) : Bool :=
  isWhite c || isBreak c ||
    (c == ':' && (isWhiteOrEnd next || (inFlow && next.any (isOneOf ",[]\x7b\x7d")))) ||
    (inFlow && isOneOf ",?[]\x7b\x7d" c)

/-- The characters of a plain scalar up to the next white space. -/
def plainChars (inFlow : Bool) : List Char → List Char
  | [] => []
  | c :: rest => if endsPlain inFlow c rest.head? then [] else c :: plainChars inFlow rest

/-- The line ends after the first one behind a part of a plain scalar, with blanks between them left
out. None is given if a mark that sets documents apart follows. -/
def takePlainBreaks : Nat → Place → Option (List Char) × Place
  | 0, p => (none, p)
  | fuel + 1, p =>
    if p.atDocumentMark && p.column == 0 then (none, p)
    else
      let p := p.skipBlanks
      match p.peek with
      | some c =>
        if isBreak c then
          let (further, after) := takePlainBreaks fuel p.forward
          (further.map (c :: ·), after)
        else (some [], p)
      | none => (some [], p)

/-- What stands for the white space between two parts of a plain scalar; nothing if the scalar does
not go on. It is told as well whether a line ended. -/
def takePlainSpace (fuel : Nat) (p : Place) : List Char × Bool × Place :=
  let (white, edge) := p.takeWhile (· == ' ')
  match edge.peek with
  | some c =>
    if isBreak c then
      let (further, after) := takePlainBreaks fuel edge.forward
      ((further.map (folded c)).getD [], true, after)
    else (white, false, edge)
  | none => (white, false, edge)

/-- The characters of a plain scalar, and the place after it and the white space behind it. It goes
on over line ends as long as it is indented by at least `indent`. It is told as well whether a line
ended at last. -/
def takePlain (inFlow : Bool) (indent : Int) : Nat → List Char → Place → List Char × Bool × Place
  | 0, _, p => ([], false, p)
  | fuel + 1, space, p =>
    let part := if p.peek = some '#' then [] else plainChars inFlow p.rest
    if part.isEmpty then ([], false, p)
    else
      let (next, broken, after) := takePlainSpace fuel (p.advance part.length)
      if next.isEmpty || after.peek == some '#' || (!inFlow && after.column < indent) then
        (space ++ part, broken, after)
      else
        let (others, brokenLast, final) := takePlain inFlow indent fuel next after
        (space ++ part ++ others, if others.isEmpty then broken else brokenLast, final)

/-! ### Block scalars -/

/-- What becomes of the line ends at the end of a block: all are taken off, all but one, or none. -/
inductive Chomping where
  | strip
  | clip
  | keep
  deriving DecidableEq

def chomping? : Char → Option Chomping
  | '+' => some .keep
  | '-' => some .strip
  | _ => none

def indentation? (c : Char) : Option Nat :=
  if c.isDigit then some (c.toNat - '0'.toNat) else none

/-- The header of a block: the chomping, and the indentation if it is told, in either order. -/
def takeBlockHeader (p : Place) : Except Unread (Chomping × Option Nat × Place) :=
  let firstChomping := p.peek.bind chomping?
  let p := if firstChomping.isSome then p.forward else p
  let columns := p.peek.bind indentation?
  let p := if columns.isSome then p.forward else p
  let lastChomping := if firstChomping.isSome || columns.isNone then none else p.peek.bind chomping?
  let p := if lastChomping.isSome then p.forward else p
  if columns = some 0 || !isBlankOrEnd p.peek then malformed
  else .ok ((firstChomping <|> lastChomping).getD .clip, columns, p)

/-- The line ends before the first line of a block whose indentation is not told, and the greatest
column reached among them. -/
def takeLeadingBreaks : Nat → Nat → Place → List Char × Nat × Place
  | 0, column, p => ([], column, p)
  | fuel + 1, column, p =>
    let p := p.skipBlanks
    let column := max column p.column
    match p.peek with
    | some c =>
      if isBreak c then
        let (further, greatest, after) := takeLeadingBreaks fuel column p.forward
        (c :: further, greatest, after)
      else ([], column, p)
    | none => ([], column, p)

/-- The place after the following blanks, but not beyond a column. -/
def indentTo (indent : Nat) (p : Place) : Place :=
  p.advance (min (indent - p.column) (p.takeWhile (· == ' ')).1.length)

/-- The line ends up to the next line of a block that is not empty. -/
def takeBlockBreaks (indent : Nat) : Nat → Place → List Char × Place
  | 0, p => ([], p)
  | fuel + 1, p =>
    let p := indentTo indent p
    match p.peek with
    | some c =>
      if isBreak c then
        let (further, after) := takeBlockBreaks indent fuel p.forward
        (c :: further, after)
      else ([], p)
    | none => ([], p)

/-- What stands for a line end inside a block, where further line ends follow it. -/
def blockBreak (fold : Bool) (line : List Char) (lineEnd : List Char) (further : List Char)
    (next : Option Char) : List Char :=
  if fold && lineEnd == ['\n'] && !line.head?.any isWhite && !next.any isWhite then
    if further.isEmpty then [' '] else []
  else lineEnd

def blockEnd (chomping : Chomping) (lineEnd further : List Char) : List Char :=
  match chomping with
  | .strip => []
  | .clip => lineEnd
  | .keep => lineEnd ++ further

/-- The characters of the lines of a block, of which the line ends `before` come first. -/
def takeBlockLines (fold : Bool) (chomping : Chomping) (indent : Nat) :
    Nat → List Char → List Char → Place → List Char × Place
  | 0, _, _, p => ([], p)
  | fuel + 1, lastEnd, before, p =>
    if p.column = indent && p.peek.isSome then
      let (line, edge) := p.takeWhile (!isBreak ·)
      let lineEnd := (edge.peek.filter isBreak).toList
      let (further, next) := takeBlockBreaks indent fuel edge.skipBreak
      let goesOn := next.column = indent && next.peek.isSome
      let link := if goesOn then blockBreak fold line lineEnd further next.peek else []
      let (others, final) := takeBlockLines fold chomping indent fuel lineEnd further next
      (before ++ line ++ link ++ others, final)
    else (blockEnd chomping lastEnd before, p)

/-- The characters of a block scalar, of which the place is after the indicator; `least` is the
least column of its lines. -/
def takeBlock (fold : Bool) (least : Nat) (p : Place) : Except Unread (List Char × Place) := do
  let fuel := p.rest.length + 1
  let (chomping, columns, edge) ← takeBlockHeader p
  let start ← edge.skipEmptyRest
  match columns with
  | some count =>
    let indent := least + count - 1
    let (before, first) := takeBlockBreaks indent fuel start
    .ok (takeBlockLines fold chomping indent fuel [] before first)
  | none =>
    let (before, greatest, first) := takeLeadingBreaks fuel 0 start
    .ok (takeBlockLines fold chomping (max least greatest) fuel [] before first)

end Place

end Formula.Yaml
