import Formula.Yaml.Scalar

/-! Tokens of a YAML text. Outside brackets the columns tell the structure: the first entry of a
block opens it, and a line further to the left closes all blocks that begin further to the right. A
key is known as one only at the colon after it, and then the token for it goes before what was read
in between; up to there the start of a token on the same line is a candidate. -/
namespace Formula.Yaml

inductive Token where
  | version (major : Nat)
  | handle (name expansion : String)
  | otherDirective
  | documentStart
  | documentEnd
  | sequenceStart
  | mappingStart
  | blockEnd
  | openBracket
  | closeBracket
  | openBrace
  | closeBrace
  | entry
  | comma
  | key
  | value
  | reference (name : String)
  | anchor (name : String)
  | tag (handle : Option String) (suffix : String)
  | scalar (content : String) (plain : Bool)
  deriving DecidableEq

/-- The start of a token that may be a key: how many tokens precede it, whether it has to be one,
and where it is. -/
structure Candidate where
  token : Nat
  required : Bool
  index : Nat
  line : Nat
  column : Nat

/-- The state of reading tokens: the place, the tokens so far, the column of the innermost block
and of those around it, whether a key may begin at the place, and the candidates, one for each
depth of brackets, the innermost first. -/
structure Lexer where
  place : Place
  tokens : Array Token
  indent : Int
  outer : List Int
  keyAllowed : Bool
  candidate : Option Candidate
  outerCandidates : List (Option Candidate)

namespace Lexer

def start (text : List Char) : Lexer :=
  ⟨.start text, #[], -1, [], true, none, []⟩

def inFlow (l : Lexer) : Bool :=
  !l.outerCandidates.isEmpty

def push (l : Lexer) (token : Token) : Lexer :=
  { l with tokens := l.tokens.push token }

def advance (l : Lexer) (count : Nat) : Lexer :=
  { l with place := l.place.advance count }

/-- The state after one more token that takes several characters. -/
def take (l : Lexer) (count : Nat) (token : Token) : Lexer :=
  (l.push token).advance count

/-- The state in which a key may begin at the place, or not. -/
def allowKey (l : Lexer) (allowed : Bool) : Lexer :=
  { l with keyAllowed := allowed }

/-! ### Blocks -/

/-- Closes the blocks that begin to the right of a column. -/
def closeBlocksFrom (column : Int) : List Int → Int → Array Token → Array Token × Int × List Int
  | [], indent, tokens => (tokens, indent, [])
  | next :: outer, indent, tokens =>
    if column < indent then closeBlocksFrom column outer next (tokens.push .blockEnd)
    else (tokens, indent, next :: outer)

/-- Closes the blocks that begin to the right of a column; none between brackets. -/
def closeBlocks (l : Lexer) (column : Int) : Lexer :=
  if l.inFlow then l
  else
    let (tokens, indent, outer) := closeBlocksFrom column l.outer l.indent l.tokens
    { l with tokens := tokens, indent := indent, outer := outer }

/-- Opens a block at a column to the right of the innermost one; its token goes to a position among
the tokens. -/
def openBlock (l : Lexer) (column : Nat) (position : Nat) (token : Token) : Lexer :=
  if l.indent < column then
    { l with
      indent := column
      outer := l.indent :: l.outer
      tokens :=
        (l.tokens.extract 0 position).push token ++ l.tokens.extract position l.tokens.size }
  else l

/-! ### Keys -/

/-- The greatest number of characters in a key. -/
def keyLimit : Nat :=
  1024

/-- A candidate is out of date: a key has to stand on one line and is not long. -/
def isStale (place : Place) (c : Candidate) : Bool :=
  c.line != place.line || keyLimit < place.index - c.index

/-- A candidate that is given up must not be a required one. -/
def giveUp (candidate : Option Candidate) : Except Unread (Option Candidate) :=
  match candidate with
  | some c => if c.required then malformed else .ok none
  | none => .ok none

def keepFresh (place : Place) (candidate : Option Candidate) : Except Unread (Option Candidate) :=
  if candidate.any (isStale place) then giveUp candidate else .ok candidate

/-- Gives up the candidates that are out of date. -/
def dropStale (l : Lexer) : Except Unread Lexer := do
  let candidate ← keepFresh l.place l.candidate
  let outer ← l.outerCandidates.mapM (keepFresh l.place)
  .ok { l with candidate := candidate, outerCandidates := outer }

def dropCandidate (l : Lexer) : Except Unread Lexer := do
  let candidate ← giveUp l.candidate
  .ok { l with candidate := candidate }

/-- Makes the next token a candidate, if a key may begin here. It is required to be a key if it
begins in the column of the innermost block. -/
def addCandidate (l : Lexer) : Except Unread Lexer :=
  if l.keyAllowed then do
    let l ← l.dropCandidate
    let required := !l.inFlow && l.indent == l.place.column
    let p := l.place
    .ok { l with candidate := some (.mk l.tokens.size required p.index p.line p.column) }
  else .ok l

/-! ### Tokens by their first characters -/

def isNameChar (c : Char) : Bool :=
  c.isAlphanum || c == '-' || c == '_'

/-- The name of an anchor or a reference to one. -/
def takeAnchorName (p : Place) : Except Unread (String × Place) :=
  let (name, edge) := p.takeWhile isNameChar
  if name.isEmpty ||
      !(isWhiteOrEnd edge.peek || edge.peek.any (isOneOf "?:,]\x7d%@\x60")) then malformed
  else .ok (String.ofList name, edge)

def takeEscapedBytes : Nat → Place → Except Unread (List UInt8 × Place)
  | 0, _ => malformed
  | fuel + 1, p =>
    match p.rest with
    | '%' :: a :: b :: _ =>
      match Place.hexNumber? [a, b] with
      | some byte => do
        let (others, after) ← takeEscapedBytes fuel (p.advance 3)
        .ok (UInt8.ofNat byte :: others, after)
      | none => malformed
    | '%' :: _ => malformed
    | _ => .ok ([], p)

def isTagChar (c : Char) : Bool :=
  c.isAlphanum || isOneOf "-;/?:@&=+$,_.!~*'()[]" c

/-- The characters of a tag, in which bytes may be written as percent escapes. -/
def takeTagChars : Nat → Place → Except Unread (List Char × Place)
  | 0, _ => malformed
  | fuel + 1, p =>
    match p.peek with
    | some '%' => do
      let (bytes, after) ← takeEscapedBytes fuel p
      match Text.decode bytes with
      | .ok chars => do
        let (others, final) ← takeTagChars fuel after
        .ok (chars ++ others, final)
      | .error _ => malformed
    | some c =>
      if isTagChar c then do
        let (others, final) ← takeTagChars fuel p.forward
        .ok (c :: others, final)
      else .ok ([], p)
    | none => .ok ([], p)

def takeTagSuffix (p : Place) : Except Unread (String × Place) := do
  let (chars, after) ← takeTagChars (p.rest.length + 1) p
  if chars.isEmpty then malformed else .ok (String.ofList chars, after)

/-- A handle of tags: an exclamation mark, or a name between two of them. -/
def takeHandle (p : Place) : Except Unread (String × Place) :=
  if p.peek = some '!' then
    let (name, edge) := p.forward.takeWhile isNameChar
    if edge.peek = some '!' then .ok (String.ofList ('!' :: name ++ ['!']), edge.forward)
    else if name.isEmpty && p.ahead 1 == some ' ' then .ok ("!", p.forward)
    else malformed
  else malformed

/-- A tag has a handle with a name if another exclamation mark comes before the next blank. -/
def hasNamedHandle (p : Place) : Bool :=
  (p.forward.rest.takeWhile fun c => !(c == ' ' || isBreak c)).contains '!'

def takeTag (p : Place) : Except Unread (Token × Place) := do
  let (token, after) ←
    if p.ahead 1 = some '<' then do
      let (suffix, after) ← takeTagSuffix (p.advance 2)
      if after.peek = some '>' then pure (Token.tag none suffix, after.forward) else malformed
    else if isWhiteOrEnd (p.ahead 1) then pure (Token.tag none "!", p.forward)
    else do
      let (handle, edge) ← if hasNamedHandle p then takeHandle p else pure ("!", p.forward)
      let (suffix, after) ← takeTagSuffix edge
      pure (Token.tag (some handle) suffix, after)
  if isBlankOrEnd after.peek then .ok (token, after) else malformed

/-- The natural number that digits denote; there is at least one, and no more than the limit. -/
def takeNumber (p : Place) : Except Unread (Nat × Place) :=
  let (digits, after) := p.takeWhile Char.isDigit
  if digits.isEmpty then malformed
  else if digitLimit < digits.length then noValue (tooManyDigitsRead digits.length)
  else .ok (Numeral.natOfDigits digits, after)

/-- The content of a directive of the given name. -/
def takeDirectiveContent (name : String) (p : Place) : Except Unread (Token × Place) :=
  if name = "YAML" then do
    let (major, point) ← takeNumber p.skipBlanks
    if point.peek ≠ some '.' then malformed
    else
      let (_, after) ← takeNumber point.forward
      if isBlankOrEnd after.peek then .ok (.version major, after) else malformed
  else if name = "TAG" then do
    let (handle, edge) ← takeHandle p.skipBlanks
    if edge.peek ≠ some ' ' then malformed
    else
      let (expansion, after) ← takeTagSuffix edge.skipBlanks
      if isBlankOrEnd after.peek then .ok (.handle handle expansion, after) else malformed
  else .ok (.otherDirective, p.skipWhile (!isBreak ·))

def takeDirective (p : Place) : Except Unread (Token × Place) := do
  let (name, edge) := p.forward.takeWhile isNameChar
  if name.isEmpty || !isBlankOrEnd edge.peek then malformed
  else
    let (token, after) ← takeDirectiveContent (String.ofList name) edge
    let final ← after.skipEmptyRest
    .ok (token, final)

/-! ### Steps -/

/-- Skips blanks, comments and line ends. After a line end outside brackets a key may begin. -/
def skipSpace : Nat → Lexer → Lexer
  | 0, l => l
  | fuel + 1, l =>
    let p := l.place.skipBlanks.skipComment
    if p.peek.any isBreak then
      skipSpace fuel { l with place := p.forward, keyAllowed := l.keyAllowed || !l.inFlow }
    else { l with place := p }

/-- Skips what stands between two tokens, and the mark at the start of the text. -/
def skipToToken (l : Lexer) : Lexer :=
  let atStart := l.place.index == 0 && l.place.peek == some byteOrderMark
  skipSpace (l.place.rest.length + 1) (if atStart then l.advance 1 else l)

/-- A mark that sets documents apart. It closes all blocks. -/
def markDocument (l : Lexer) (token : Token) : Except Unread Lexer := do
  let l ← (l.closeBlocks (-1)).dropCandidate
  .ok ((l.allowKey false).take 3 token)

def addDirective (l : Lexer) : Except Unread Lexer := do
  let l ← (l.closeBlocks (-1)).dropCandidate
  let (token, after) ← takeDirective l.place
  .ok { (l.allowKey false).push token with place := after }

def openFlow (l : Lexer) (token : Token) : Except Unread Lexer := do
  let l ← l.addCandidate
  let l := { l with candidate := none, outerCandidates := l.candidate :: l.outerCandidates }
  .ok ((l.allowKey true).take 1 token)

def closeFlow (l : Lexer) (token : Token) : Except Unread Lexer := do
  let l ← l.dropCandidate
  match l.outerCandidates with
  | [] => malformed
  | candidate :: outer =>
    let l := { l with candidate := candidate, outerCandidates := outer }
    .ok ((l.allowKey false).take 1 token)

def addComma (l : Lexer) : Except Unread Lexer := do
  let l ← l.dropCandidate
  .ok ((l.allowKey true).take 1 .comma)

/-- Opens a block at the place, if the place is outside brackets; an entry or a key has to be
allowed there. -/
def openHere (l : Lexer) (token : Token) : Except Unread Lexer :=
  if l.inFlow then .ok l
  else if l.keyAllowed then .ok (l.openBlock l.place.column l.tokens.size token)
  else malformed

def addEntry (l : Lexer) : Except Unread Lexer := do
  let l ← l.openHere .sequenceStart
  let l ← l.dropCandidate
  .ok ((l.allowKey true).take 1 .entry)

def addKey (l : Lexer) : Except Unread Lexer := do
  let l ← l.openHere .mappingStart
  let l ← l.dropCandidate
  .ok ((l.allowKey (!l.inFlow)).take 1 .key)

def insert (l : Lexer) (position : Nat) (token : Token) : Lexer :=
  { l with tokens :=
    (l.tokens.extract 0 position).push token ++ l.tokens.extract position l.tokens.size }

/-- A value. The candidate becomes the key that it belongs to; without one it belongs to the key
that is marked before it, or to none. -/
def addValue (l : Lexer) : Except Unread Lexer :=
  match l.candidate with
  | some c =>
    let l := { l with candidate := none }.insert c.token .key
    let l := if l.inFlow then l else l.openBlock c.column c.token .mappingStart
    .ok ((l.allowKey false).take 1 .value)
  | none => do
    let l ← l.openHere .mappingStart
    let l ← l.dropCandidate
    .ok ((l.allowKey (!l.inFlow)).take 1 .value)

/-- A token that may be a key, with the place after it. -/
def addContent (l : Lexer) (content : Except Unread (Token × Place)) : Except Unread Lexer := do
  let l ← l.addCandidate
  let (token, after) ← content
  .ok { (l.allowKey false).push token with place := after }

def addAnchor (l : Lexer) (token : String → Token) : Except Unread Lexer :=
  l.addContent do
    let (name, after) ← takeAnchorName l.place.forward
    .ok (token name, after)

def addQuoted (l : Lexer) (double : Bool) : Except Unread Lexer :=
  l.addContent do
    let (chars, after) ← Place.takeQuoted double (l.place.rest.length + 1) l.place.forward
    .ok (.scalar (String.ofList chars) false, after)

/-- A plain scalar. If a line ends behind it, a key may begin after it. -/
def addPlain (l : Lexer) : Except Unread Lexer := do
  let l ← l.addCandidate
  let (chars, broken, after) :=
    Place.takePlain l.inFlow (l.indent + 1) (l.place.rest.length + 1) [] l.place
  .ok { (l.allowKey broken).push (.scalar (String.ofList chars) true) with place := after }

def addBlock (l : Lexer) (fold : Bool) : Except Unread Lexer := do
  let l ← l.dropCandidate
  let (chars, after) ← Place.takeBlock fold (max 1 (l.indent + 1).toNat) l.place.forward
  .ok { (l.allowKey true).push (.scalar (String.ofList chars) false) with place := after }

/-- A plain scalar may begin with a character, where `next` follows it. -/
def startsPlain (inFlow : Bool) (c : Char) (next : Option Char) : Bool :=
  !(isWhite c || isBreak c || isOneOf "-?:,[]\x7b\x7d#&*!|>'\"%@\x60" c) ||
    (!isWhiteOrEnd next && (c == '-' || (!inFlow && (c == '?' || c == ':'))))

/-- Adds the token that begins with a character at the place. -/
def addToken (l : Lexer) (c : Char) : Except Unread Lexer :=
  let p := l.place
  let atLineStart := p.column == 0
  let beforeSpace := isWhiteOrEnd (p.ahead 1)
  if c == '%' && atLineStart then l.addDirective
  else if atLineStart && p.atDocumentMark then
    l.markDocument (if c = '-' then .documentStart else .documentEnd)
  else if c == '[' then l.openFlow .openBracket
  else if c == '\x7b' then l.openFlow .openBrace
  else if c == ']' then l.closeFlow .closeBracket
  else if c == '\x7d' then l.closeFlow .closeBrace
  else if c == ',' then l.addComma
  else if c == '-' && beforeSpace then l.addEntry
  else if c == '?' && (l.inFlow || beforeSpace) then l.addKey
  else if c == ':' && (l.inFlow || beforeSpace) then l.addValue
  else if c == '*' then l.addAnchor .reference
  else if c == '&' then l.addAnchor .anchor
  else if c == '!' then l.addContent (takeTag p)
  else if c == '|' && !l.inFlow then l.addBlock false
  else if c == '>' && !l.inFlow then l.addBlock true
  else if c == '\'' then l.addQuoted false
  else if c == '"' then l.addQuoted true
  else if startsPlain l.inFlow c (p.ahead 1) then l.addPlain
  else malformed

/-- The tokens at the end of the text, where all blocks are closed. -/
def finish (l : Lexer) : Except Unread (List Token) := do
  let l ← (l.closeBlocks (-1)).dropCandidate
  .ok l.tokens.toList

/-- The tokens from a state on. Every step takes a character, so the length of the text is enough
fuel. -/
def run : Nat → Lexer → Except Unread (List Token)
  | 0, _ => malformed
  | fuel + 1, l => do
    let l ← l.skipToToken.dropStale
    let l := l.closeBlocks l.place.column
    match l.place.peek with
    | none => l.finish
    | some c => do
      let next ← l.addToken c
      run fuel next

end Lexer

def tokens (text : List Char) : Except Unread (List Token) :=
  Lexer.run (text.length + 1) (.start text)

end Formula.Yaml
