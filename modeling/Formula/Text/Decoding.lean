import Formula.Text.Quoted

/-! Texts from bytes. A file holds a text in UTF-8, in which every character has one form only: no
longer one than needed, and none for surrogates or beyond the last code point. What is not of that
form is reported by the bytes that break it. A line ends with a line feed, a carriage return, or
both; in the text it always ends with a line feed. -/
namespace Formula.Text

inductive Undecodability where
  | startByte
  | continuationByte
  | truncated
  deriving DecidableEq

/-- Bytes that are no text: the ones from the position `first` to the position `last`, of which the
first one is `byte`. -/
structure Undecodable where
  cause : Undecodability
  byte : Nat
  first : Nat
  last : Nat
  deriving DecidableEq

def Undecodable.message (u : Undecodable) : String :=
  let place :=
    if u.first = u.last then
      "byte 0x" ++ String.ofList (hexDigits 2 u.byte) ++ " in position " ++ toString u.first
    else "bytes in position " ++ toString u.first ++ "-" ++ toString u.last
  let reason := match u.cause with
    | .startByte => "invalid start byte"
    | .continuationByte => "invalid continuation byte"
    | .truncated => "unexpected end of data"
  "'utf-8' codec can't decode " ++ place ++ ": " ++ reason

/-- How a character begins: the number of bytes after the first one, the bits that the first one
contributes, and the bounds of the second one. -/
structure Lead where
  following : Nat
  bits : Nat
  least : Nat
  greatest : Nat

def lead? (byte : Nat) : Option Lead :=
  if byte < 0x80 then some ⟨0, byte, 0, 0⟩
  else if byte < 0xC2 then none
  else if byte < 0xE0 then some ⟨1, byte % 0x20, 0x80, 0xBF⟩
  else if byte = 0xE0 then some ⟨2, 0, 0xA0, 0xBF⟩
  else if byte = 0xED then some ⟨2, byte % 0x10, 0x80, 0x9F⟩
  else if byte < 0xF0 then some ⟨2, byte % 0x10, 0x80, 0xBF⟩
  else if byte = 0xF0 then some ⟨3, 0, 0x90, 0xBF⟩
  else if byte < 0xF4 then some ⟨3, byte % 0x08, 0x80, 0xBF⟩
  else if byte = 0xF4 then some ⟨3, 4, 0x80, 0x8F⟩
  else none

/-- The bytes after the first one of a character, taken into the bits read so far. The failure has
the number of bytes that were well-formed. -/
def takeContinuation (least greatest : Nat) : Nat → Nat → List Nat →
    Except (Undecodability × Nat) (Nat × List Nat)
  | 0, bits, rest => .ok (bits, rest)
  | _ + 1, _, [] => .error (.truncated, 0)
  | count + 1, bits, byte :: rest =>
    if least ≤ byte ∧ byte ≤ greatest then
      match takeContinuation 0x80 0xBF count (bits * 0x40 + byte % 0x40) rest with
      | .ok result => .ok result
      | .error (cause, good) => .error (cause, good + 1)
    else .error (.continuationByte, 0)

/-- The character at the start of bytes that begin at a position, with its number of bytes and the
bytes after it. -/
def takeCharacter (position byte : Nat) (rest : List Nat) :
    Except Undecodable (Char × Nat × List Nat) :=
  match lead? byte with
  | none => .error ⟨.startByte, byte, position, position⟩
  | some lead =>
    match takeContinuation lead.least lead.greatest lead.following lead.bits rest with
    | .ok (bits, after) => .ok (Char.ofNat bits, lead.following + 1, after)
    | .error (cause, good) => .error ⟨cause, byte, position, position + good⟩

/-- The characters of bytes that begin at a position. Every step takes a byte, so the number of
bytes is enough fuel. -/
def decodeFrom : Nat → Nat → List Nat → Except Undecodable (List Char)
  | _, _, [] => .ok []
  | 0, _, _ :: _ => .ok []
  | fuel + 1, position, byte :: rest => do
    let (c, size, after) ← takeCharacter position byte rest
    let chars ← decodeFrom fuel (position + size) after
    .ok (c :: chars)

def decode (bytes : List UInt8) : Except Undecodable (List Char) :=
  decodeFrom bytes.length 0 (bytes.map UInt8.toNat)

/-- A text in which every line ends with a line feed. -/
def unifyLineEnds : List Char → List Char
  | '\r' :: '\n' :: rest => '\n' :: unifyLineEnds rest
  | '\r' :: rest => '\n' :: unifyLineEnds rest
  | c :: rest => c :: unifyLineEnds rest
  | [] => []

end Formula.Text
