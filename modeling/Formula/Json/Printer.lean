import Formula.Json.Basic
import Formula.Number.Binary64.Shortest
import Formula.Number.Numeral
import Formula.Text.Quoted

/-! The text of a JSON value. It consists of ASCII characters alone: every other character of a
text, and every control character, is written by its UTF-16 code units. A value with an integer
beyond the digit limit has no text. -/
namespace Formula.Json

/-- How the parts of arrays and objects are set apart: all on one line, or each on a line of its
own behind as many copies of a text as it is deep. -/
inductive Layout where
  | oneLine
  | indented (unit : List Char)

def Layout.blanks (width : Nat) : Layout :=
  .indented (List.replicate width ' ')

/-- What precedes a part at the given depth, after the separator. -/
def Layout.lead (depth : Nat) : Layout → List Char
  | .oneLine => []
  | .indented unit => '\n' :: (List.replicate depth unit).flatten

/-- What stands between two parts at the given depth. -/
def Layout.separator (depth : Nat) : Layout → List Char
  | .oneLine => [',', ' ']
  | layout => ',' :: layout.lead depth

def unitEscape (unit : Nat) : List Char :=
  '\\' :: 'u' :: Text.hexDigits 4 unit

def escapedChar (c : Char) : List Char :=
  if c = '"' then ['\\', '"']
  else if c = '\\' then ['\\', '\\']
  else if c = '\n' then ['\\', 'n']
  else if c = '\r' then ['\\', 'r']
  else if c = '\t' then ['\\', 't']
  else if c = '\x0c' then ['\\', 'f']
  else if c = '\x08' then ['\\', 'b']
  else if ' ' ≤ c ∧ c ≤ '~' then [c]
  else if c.toNat < 0x10000 then unitEscape c.toNat
  else
    let offset := c.toNat - 0x10000
    unitEscape (0xD800 + offset / 0x400) ++ unitEscape (0xDC00 + offset % 0x400)

def textLiteral (text : String) : List Char :=
  '"' :: (text.toList.flatMap escapedChar ++ ['"'])

/-- The decimal text of an integer within the digit limit. -/
def intLiteral? (n : Int) : Option (List Char) :=
  let digits := Nat.toDigits 10 n.natAbs
  if digitLimit < digits.length then none else some (if n < 0 then '-' :: digits else digits)

mutual

/-- The characters of a value whose parts are at the depth `depth + 1`. -/
def chars? (layout : Layout) (depth : Nat) : Json → Option (List Char)
  | null => some "null".toList
  | bool true => some "true".toList
  | bool false => some "false".toList
  | int n => intLiteral? n
  | float x => some (x.text Binary64.jsonStyle).toList
  | text s => some (textLiteral s)
  | array [] => some ['[', ']']
  | array (item :: items) => do
    let first ← item.chars? layout (depth + 1)
    let others ← itemChars? layout (depth + 1) items
    some ('[' :: (layout.lead (depth + 1) ++ first ++ others ++ layout.lead depth ++ [']']))
  | object [] => some ['\x7b', '\x7d']
  | object ((name, value) :: fields) => do
    let first ← value.chars? layout (depth + 1)
    let others ← fieldChars? layout (depth + 1) fields
    some ('\x7b' :: (layout.lead (depth + 1) ++ textLiteral name ++ [':', ' '] ++ first ++ others ++
      layout.lead depth ++ ['\x7d']))

/-- The characters of the items after the first one, each behind a separator. -/
def itemChars? (layout : Layout) (depth : Nat) : List Json → Option (List Char)
  | [] => some []
  | item :: items => do
    let first ← item.chars? layout depth
    let others ← itemChars? layout depth items
    some (layout.separator depth ++ first ++ others)

/-- The characters of the fields after the first one, each behind a separator. -/
def fieldChars? (layout : Layout) (depth : Nat) : List (String × Json) → Option (List Char)
  | [] => some []
  | (name, value) :: fields => do
    let first ← value.chars? layout depth
    let others ← fieldChars? layout depth fields
    some (layout.separator depth ++ textLiteral name ++ [':', ' '] ++ first ++ others)

end

def render? (layout : Layout) (value : Json) : Option String :=
  (value.chars? layout 0).map String.ofList

end Formula.Json
