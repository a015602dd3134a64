import Formula.Text.Quoted
import Formula.Yaml.Place

/-! Bytes in YAML. They are written in base 64: four characters stand for three bytes, padding ends
the text, and characters that are no digits are passed over. As values bytes are known by their text
alone. -/
namespace Formula.Yaml.Binary

def digitValue? (c : Char) : Option Nat :=
  if 'A' ≤ c ∧ c ≤ 'Z' then some (c.toNat - 'A'.toNat)
  else if 'a' ≤ c ∧ c ≤ 'z' then some (c.toNat - 'a'.toNat + 26)
  else if '0' ≤ c ∧ c ≤ '9' then some (c.toNat - '0'.toNat + 52)
  else if c = '+' then some 62
  else if c = '/' then some 63
  else none

/-- What is left over between two digits: how many of the digits of a group were read, the bits of
the last one that belong to the next byte, and how many characters of padding follow it. -/
structure Rest where
  digits : Nat
  bits : Nat
  padding : Nat

/-- The byte that a digit completes, if it completes one, and what is left over after it. -/
def step (rest : Rest) (digit : Nat) : List Nat × Rest :=
  match rest.digits with
  | 0 => ([], ⟨1, digit, 0⟩)
  | 1 => ([rest.bits * 4 + digit / 16], ⟨2, digit % 16, 0⟩)
  | 2 => ([rest.bits * 16 + digit / 4], ⟨3, digit % 4, 0⟩)
  | _ => ([rest.bits * 64 + digit], ⟨0, 0, 0⟩)

/-- The bytes of a text, of which the digits before it leave something over. -/
def bytes? (rest : Rest) : List Char → Option (List Nat)
  | [] => if rest.digits = 0 then some [] else none
  | '=' :: chars =>
    if rest.digits < 2 then bytes? rest chars
    else if 3 ≤ rest.digits + rest.padding then some []
    else bytes? { rest with padding := rest.padding + 1 } chars
  | c :: chars =>
    match digitValue? c with
    | none => bytes? rest chars
    | some digit => do
      let (complete, rest) := step rest digit
      let others ← bytes? rest chars
      some (complete ++ others)

def shownByte (quote : Char) (byte : Nat) : List Char :=
  if byte < 0x80 then Text.quotedChar quote (Char.ofNat byte)
  else '\\' :: 'x' :: Text.hexDigits 2 byte

/-- The text by which bytes are known. -/
def shown (bytes : List Nat) : String :=
  let quote := Text.quoteFor (bytes.map Char.ofNat)
  String.ofList ('b' :: quote :: (bytes.flatMap (shownByte quote) ++ [quote]))

def value (content : String) : Except Unread Value :=
  if content.toList.all (·.toNat < 0x80) then
    match bytes? ⟨0, 0, 0⟩ content.toList with
    | some bytes => .ok (.shown "bytes" (some (shown bytes, shown bytes)) (!bytes.isEmpty))
    | none => malformed
  else malformed

end Formula.Yaml.Binary
