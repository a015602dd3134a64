import Formula.Json.Reader
import Formula.Number.Binary64.Reader
import Formula.Yaml.Binary
import Formula.Yaml.Timestamp

/-! The values of YAML scalars. A plain scalar without tag is told by its form: nothing, a truth
value, an integer in one of several bases, a number with a point, a timestamp, or else a text. A tag
may force a form upon a scalar that has another one, and then there may be no value. -/
namespace Formula.Yaml

/-! ### Tags -/

def standardPrefix : String :=
  "tag:yaml.org,2002:"

def standardTag (name : String) : String :=
  standardPrefix ++ name

def nullTag : String :=
  standardTag "null"

def boolTag : String :=
  standardTag "bool"

def intTag : String :=
  standardTag "int"

def floatTag : String :=
  standardTag "float"

def timestampTag : String :=
  standardTag "timestamp"

def binaryTag : String :=
  standardTag "binary"

def textTag : String :=
  standardTag "str"

/-- The tag of the key whose value is merged into the mapping. -/
def mergeTag : String :=
  standardTag "merge"

/-- The tag of the key for the mapping's own value. -/
def valueTag : String :=
  standardTag "value"

def sequenceTag : String :=
  standardTag "seq"

def mappingTag : String :=
  standardTag "map"

def setTag : String :=
  standardTag "set"

def pairTags : List String :=
  [standardTag "omap", standardTag "pairs"]

/-! ### Forms of plain scalars -/

def nullWords : List String :=
  ["", "~", "null", "Null", "NULL"]

/-- The words for truth values, in lower case, with their values. -/
def boolWords : List (String × Bool) :=
  [("yes", true), ("no", false), ("true", true), ("false", false), ("on", true), ("off", false)]

/-- A word as it may be written: in lower case, with a capital, or in capitals. -/
def spellings (word : String) : List String :=
  [word, word.capitalize, word.map Char.toUpper]

def isPlace (c : Char) : Bool :=
  c.isDigit || c == '_'

def dropSign (text : List Char) : List Char :=
  (Numeral.takeSign text).2

/-- A number below sixty, of one or two digits. -/
def isSixtieth : List Char → Bool
  | [d] => d.isDigit
  | [t, d] => '0' ≤ t && t ≤ '5' && d.isDigit
  | _ => false

/-- Colons, each with a number below sixty after it; at least one. -/
def areSixtieths (text : List Char) : Bool :=
  match text with
  | ':' :: rest => (rest.splitOn ':').all isSixtieth
  | _ => false

/-- The form of integers: binary, octal or hexadecimal after a zero, decimal, or to the base
sixty. -/
def isIntForm (text : List Char) : Bool :=
  match dropSign text with
  | ['0'] => true
  | '0' :: 'b' :: digits => !digits.isEmpty && digits.all (isOneOf "01_")
  | '0' :: 'x' :: digits =>
    !digits.isEmpty && digits.all fun c => (Json.hexValue? c).isSome || c == '_'
  | '0' :: digits => digits.all (isOneOf "01234567_")
  | c :: rest =>
    let tail := rest.dropWhile isPlace
    c.isDigit && (tail.isEmpty || areSixtieths tail)
  | [] => false

/-- The form of an exponent, which may be missing: its sign may not. -/
def isExponentForm : List Char → Bool
  | [] => true
  | e :: sign :: digits =>
    (e == 'e' || e == 'E') && (sign == '+' || sign == '-') && !digits.isEmpty &&
      digits.all Char.isDigit
  | _ => false

/-- The form of what follows the digits before a point. -/
def isFractionForm (text : List Char) : Bool :=
  match text with
  | '.' :: rest => isExponentForm (rest.dropWhile isPlace)
  | ':' :: _ =>
    areSixtieths (text.takeWhile (· != '.')) && text.contains '.' &&
      (text.dropWhile (· != '.')).tail.all isPlace
  | _ => false

def isFloatForm (text : List Char) : Bool :=
  let magnitude := dropSign text
  if [".inf", ".Inf", ".INF"].contains (String.ofList magnitude) then true
  else if [".nan", ".NaN", ".NAN"].contains (String.ofList text) then true
  else
    match text, magnitude with
    | '.' :: d :: rest, _ => d.isDigit && isExponentForm (rest.dropWhile isPlace)
    | _, d :: rest => d.isDigit && isFractionForm (rest.dropWhile isPlace)
    | _, [] => false

/-- The tag that the content of a plain scalar tells. -/
def plainTag (content : String) : String :=
  let text := content.toList
  if nullWords.contains content then nullTag
  else if boolWords.any fun (word, _) => (spellings word).contains content then boolTag
  else if isFloatForm text then floatTag
  else if isIntForm text then intTag
  else if content = "<<" then mergeTag
  else if Timestamp.isPlain text then timestampTag
  else if content = "=" then valueTag
  else textTag

/-! ### Values -/

/-- The fault of an empty text where a digit has to be. -/
def noDigit : Except Unread α :=
  .error (.fault (.index "string"))

/-- The fault of a text that is no integer to a base. -/
def noInteger (base : Nat) (text : List Char) : Except Unread α :=
  noValue ("invalid literal for int() with base " ++ toString base ++ ": " ++
    Text.quoted (String.ofList text))

def decimalInteger (text : List Char) : Except Unread Int :=
  match readInt? (String.ofList text) with
  | some n => .ok n
  | none =>
    let digits := (Text.asciiNumeral text).filter Char.isDigit
    if digitLimit < digits.length then noValue (tooManyDigitsRead digits.length)
    else noInteger 10 text

def integerInBase (base : Nat) (digits shown : List Char) : Except Unread Int :=
  let values := digits.mapM fun c => (Json.hexValue? c).filter (· < base)
  match values with
  | some (first :: others) => .ok ((first :: others).foldl (fun n d => n * base + d) 0 : Nat)
  | _ => noInteger base shown

def integerMagnitude (text : List Char) : Except Unread Int :=
  match text with
  | [] => noDigit
  | ['0'] => .ok 0
  | '0' :: 'b' :: digits => integerInBase 2 digits digits
  | '0' :: 'x' :: digits => integerInBase 16 digits digits
  | '0' :: digits => integerInBase 8 digits text
  | _ =>
    if text.contains ':' then do
      let parts ← (text.splitOn ':').mapM decimalInteger
      .ok (parts.foldl (fun total part => total * 60 + part) 0)
    else decimalInteger text

def integerValue (content : String) : Except Unread Value := do
  let text := content.toList.filter (· != '_')
  if text.isEmpty then noDigit
  else
    let (negative, magnitude) := Numeral.takeSign text
    let n ← integerMagnitude magnitude
    .ok (.int (if negative then -n else n))

def pointNumber (text : List Char) : Except Unread Binary64 :=
  match Binary64.read? (String.ofList text) with
  | some x => .ok x
  | none => noValue ("could not convert string to float: " ++ Text.quoted (String.ofList text))

/-- Numbers to the base sixty, the first one the greatest place: the sum is taken from the least
place on. -/
def sixtiethSum : List Binary64 → Binary64 → Binary64 → Binary64
  | [], _, total => total
  | part :: parts, base, total =>
    sixtiethSum parts (base.mul (.ofInt 60)) (total.add (part.mul base))

def floatMagnitude (text : List Char) : Except Unread Binary64 :=
  if text = ".inf".toList then .ok (.infinity false)
  else if text = ".nan".toList then .ok .nan
  else if text.contains ':' then do
    let parts ← (text.splitOn ':').mapM pointNumber
    .ok (sixtiethSum parts.reverse .one .zero)
  else pointNumber text

def floatValue (content : String) : Except Unread Value := do
  let text := (content.toList.filter (· != '_')).map Char.toLower
  if text.isEmpty then noDigit
  else
    let (negative, magnitude) := Numeral.takeSign text
    let x ← floatMagnitude magnitude
    .ok (.float (if negative then x.negate else x))

/-- The value of a word for a truth value, in any case. -/
def boolValue (content : String) : Except Unread Value :=
  let word := content.map Char.toLower
  match boolWords.find? (·.1 == word) with
  | some (_, value) => .ok (.bool value)
  | none => .error (.fault (.raised "KeyError" [.text word]))

def timestampValue (content : String) : Except Unread Value :=
  match Timestamp.read? content.toList with
  | some stamp => stamp.value
  | none =>
    .error (.fault (.raised "AttributeError"
      [.text "'NoneType' object has no attribute 'groupdict'"]))

def scalarValue (tag content : String) : Except Unread Value :=
  if tag = textTag then .ok (.text content)
  else if tag = nullTag then .ok .none
  else if tag = boolTag then boolValue content
  else if tag = intTag then integerValue content
  else if tag = floatTag then floatValue content
  else if tag = timestampTag then timestampValue content
  else if tag = binaryTag then Binary.value content
  else malformed

end Formula.Yaml
