import Formula.Json.Basic
import Formula.Number.Binary64.Reader

/-! Reading JSON. The reader accepts the standard's texts and, beside them, the words for numbers
that are not finite. A number without fraction and exponent is an integer, and then it may not
have more digits than the limit. Of several fields of one name the last one counts. -/
namespace Formula.Json

inductive Refusal where
  | malformed
  | integerTooLong (digits : Nat)
  deriving DecidableEq

def isSpace (c : Char) : Bool :=
  c == ' ' || c == '\t' || c == '\n' || c == '\r'

def skipSpace (text : List Char) : List Char :=
  text.dropWhile isSpace

def hexValue? (c : Char) : Option Nat :=
  if '0' ≤ c ∧ c ≤ '9' then some (c.toNat - '0'.toNat)
  else if 'a' ≤ c ∧ c ≤ 'f' then some (c.toNat - 'a'.toNat + 10)
  else if 'A' ≤ c ∧ c ≤ 'F' then some (c.toNat - 'A'.toNat + 10)
  else none

/-- A code unit of four hexadecimal digits, and what follows it. -/
def takeUnit? : List Char → Option (Nat × List Char)
  | a :: b :: c :: d :: rest => do
    let a ← hexValue? a
    let b ← hexValue? b
    let c ← hexValue? c
    let d ← hexValue? d
    some (((a * 16 + b) * 16 + c) * 16 + d, rest)
  | _ => none

/-- The character that a letter after a backslash stands for. -/
def escape? : Char → Option Char
  | '"' => some '"'
  | '\\' => some '\\'
  | '/' => some '/'
  | 'b' => some '\x08'
  | 'f' => some '\x0c'
  | 'n' => some '\n'
  | 'r' => some '\r'
  | 't' => some '\t'
  | _ => none

/-- The character of one or two code units, and what follows them. A surrogate without its partner
stands for no character and is replaced. -/
def takeEscapedUnits? (text : List Char) : Option (Char × List Char) := do
  let (high, rest) ← takeUnit? text
  if 0xD800 ≤ high ∧ high < 0xDC00 then
    match rest with
    | '\\' :: 'u' :: after =>
      let (low, rest') ← takeUnit? after
      if 0xDC00 ≤ low ∧ low < 0xE000 then
        some (Char.ofNat (0x10000 + (high - 0xD800) * 0x400 + (low - 0xDC00)), rest')
      else some ('\uFFFD', rest)
    | _ => some ('\uFFFD', rest)
  else if 0xDC00 ≤ high ∧ high < 0xE000 then some ('\uFFFD', rest)
  else some (Char.ofNat high, rest)

/-- The characters of a text literal after its opening quote, and what follows its closing quote.
Every step takes at least one character, so the length of the text is enough fuel. -/
def takeLiteral? : Nat → List Char → Option (List Char × List Char)
  | 0, _ => none
  | _ + 1, [] => none
  | _ + 1, '"' :: rest => some ([], rest)
  | fuel + 1, '\\' :: 'u' :: rest => do
    let (c, after) ← takeEscapedUnits? rest
    let (chars, final) ← takeLiteral? fuel after
    some (c :: chars, final)
  | fuel + 1, '\\' :: letter :: rest => do
    let c ← escape? letter
    let (chars, final) ← takeLiteral? fuel rest
    some (c :: chars, final)
  | fuel + 1, c :: rest =>
    if c = '\\' ∨ c < ' ' then none
    else do
      let (chars, final) ← takeLiteral? fuel rest
      some (c :: chars, final)

/-- The digits of an integer: a zero alone, or digits that begin with another one. -/
def takeIntegerDigits? : List Char → Option (List Char × List Char)
  | '0' :: rest => some (['0'], rest)
  | source =>
    let (digits, rest) := Numeral.takeDigits source
    if digits.isEmpty then none else some (digits, rest)

def takeFraction : List Char → List Char × List Char
  | '.' :: rest =>
    let (digits, after) := Numeral.takeDigits rest
    if digits.isEmpty then ([], '.' :: rest) else (digits, after)
  | source => ([], source)

def takeExponent (text : List Char) : Option Int × List Char :=
  match text with
  | c :: rest =>
    if c = 'e' ∨ c = 'E' then
      let (negative, magnitude) := Numeral.takeSign rest
      let (digits, after) := Numeral.takeDigits magnitude
      if digits.isEmpty then (none, text)
      else
        let n : Int := Numeral.natOfDigits digits
        (some (if negative then -n else n), after)
    else (none, text)
  | [] => (none, [])

/-- A number of the given sign at the start of a text, and what follows it. -/
def takeNumber (negative : Bool) (text : List Char) : Except Refusal (Json × List Char) :=
  match takeIntegerDigits? text with
  | none => .error .malformed
  | some (whole, afterWhole) =>
    let (fraction, afterFraction) := takeFraction afterWhole
    let (exponent?, rest) := takeExponent afterFraction
    if fraction.isEmpty && exponent?.isNone then
      if digitLimit < whole.length then .error (.integerTooLong whole.length)
      else
        let n : Int := Numeral.natOfDigits whole
        .ok (int (if negative then -n else n), rest)
    else
      let numeral : Numeral := ⟨whole, fraction, exponent?.getD 0⟩
      .ok (float (Binary64.ofNumeral negative numeral), rest)

/-- The rest of a text that begins with the given word. -/
def afterWord? (word : String) (text : List Char) : Option (List Char) :=
  if word.toList.isPrefixOf text then some (text.drop word.length) else none

/-- A value that is neither text, array nor object, and what follows it. -/
def takeScalar (text : List Char) : Except Refusal (Json × List Char) :=
  match afterWord? "null" text, afterWord? "true" text, afterWord? "false" text,
      afterWord? "NaN" text, afterWord? "Infinity" text, afterWord? "-Infinity" text with
  | some rest, _, _, _, _, _ => .ok (null, rest)
  | _, some rest, _, _, _, _ => .ok (bool true, rest)
  | _, _, some rest, _, _, _ => .ok (bool false, rest)
  | _, _, _, some rest, _, _ => .ok (float .nan, rest)
  | _, _, _, _, some rest, _ => .ok (float (.infinity false), rest)
  | _, _, _, _, _, some rest => .ok (float (.infinity true), rest)
  | none, none, none, none, none, none =>
    match text with
    | '-' :: magnitude => takeNumber true magnitude
    | magnitude => takeNumber false magnitude

mutual

/-- A value at the start of a text, and what follows it. -/
def takeValue : Nat → List Char → Except Refusal (Json × List Char)
  | 0, _ => .error .malformed
  | fuel + 1, '"' :: rest =>
    match takeLiteral? fuel rest with
    | some (chars, after) => .ok (text (String.ofList chars), after)
    | none => .error .malformed
  | fuel + 1, '[' :: rest =>
    match skipSpace rest with
    | ']' :: after => .ok (array [], after)
    | items => do
      let (items, after) ← takeItems fuel items
      .ok (array items, after)
  | fuel + 1, '\x7b' :: rest =>
    match skipSpace rest with
    | '\x7d' :: after => .ok (object [], after)
    | fields => do
      let (fields, after) ← takeFields fuel fields
      .ok (ofFields fields, after)
  | _ + 1, source => takeScalar source

/-- The items of an array up to its closing bracket. -/
def takeItems : Nat → List Char → Except Refusal (List Json × List Char)
  | 0, _ => .error .malformed
  | fuel + 1, source => do
    let (item, after) ← takeValue fuel source
    match skipSpace after with
    | ',' :: rest => do
      let (items, final) ← takeItems fuel (skipSpace rest)
      .ok (item :: items, final)
    | ']' :: final => .ok ([item], final)
    | _ => .error .malformed

/-- The fields of an object up to its closing brace. -/
def takeFields : Nat → List Char → Except Refusal (List (String × Json) × List Char)
  | 0, _ => .error .malformed
  | fuel + 1, '"' :: start =>
    match takeLiteral? fuel start with
    | none => .error .malformed
    | some (chars, afterName) =>
      match skipSpace afterName with
      | ':' :: rest => do
        let (value, after) ← takeValue fuel (skipSpace rest)
        match skipSpace after with
        | ',' :: rest => do
          let (fields, final) ← takeFields fuel (skipSpace rest)
          .ok ((String.ofList chars, value) :: fields, final)
        | '\x7d' :: final => .ok ([(String.ofList chars, value)], final)
        | _ => .error .malformed
      | _ => .error .malformed
  | _ + 1, _ => .error .malformed

end

/-- Reads a text that is one value with white space around it. Every step of the reader takes a
character, so the length of the text bounds their number. -/
def read (source : String) : Except Refusal Json := do
  let chars := source.toList
  let (value, rest) ← takeValue (chars.length + 1) (skipSpace chars)
  if (skipSpace rest).isEmpty then .ok value else .error .malformed

end Formula.Json
