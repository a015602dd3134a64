import Formula.Number.Binary64.Shortest
import Formula.Number.Decimal.Basic
import Formula.Number.Numeral
import Formula.Text.Quoted

/-! Values. Expressions compute with numbers of four kinds, and callbacks may take and give any
other value of this type. A value has two texts, a plain one and a quoted one that tells its kind;
they differ for texts, decimals and fractions. Neither exists for an integer beyond the digit
limit, nor for anything that contains one. -/
namespace Formula

/-- A value. The last form is for values known only by their texts, such as dates in a document: a
plain and a quoted one, or neither. For such a value `holds` tells whether it counts as true. -/
inductive Value where
  | none
  | bool (value : Bool)
  | int (value : Int)
  | float (value : Binary64)
  | decimal (value : Decimal)
  | fraction (value : Rat)
  | text (value : String)
  | list (items : List Value)
  | tuple (items : List Value)
  | mapping (entries : List (Value × Value))
  | shown (type : String) (texts : Option (String × String)) (holds : Bool)
  deriving Inhabited

namespace Value

def typeName : Value → String
  | none => "NoneType"
  | bool _ => "bool"
  | int _ => "int"
  | float _ => "float"
  | decimal _ => "decimal.Decimal"
  | fraction _ => "Fraction"
  | text _ => "str"
  | list _ => "list"
  | tuple _ => "tuple"
  | mapping _ => "dict"
  | shown type _ _ => type

/-- The name of a value's type, without that of the module it belongs to. -/
def className (value : Value) : String :=
  String.ofList (value.typeName.toList.reverse.takeWhile (· != '.')).reverse

/-- The value counts as true: it is neither none, false, a zero, nor empty. -/
def holds : Value → Bool
  | none => false
  | bool value => value
  | int n => n != 0
  | float x => !x.isZero
  | decimal d => !d.isZero
  | fraction q => q.num != 0
  | text s => !s.isEmpty
  | list items => !items.isEmpty
  | tuple items => !items.isEmpty
  | mapping entries => !entries.isEmpty
  | shown _ _ holds => holds

/-- The value is a number; the truth values are none. -/
def isNumber : Value → Bool
  | int _ | float _ | decimal _ | fraction _ => true
  | _ => false

def isInfinite : Value → Bool
  | float x => x.isInfinite
  | decimal d => d.isInfinite
  | _ => false

/-- The integer that a value is; the truth values count as one and zero. -/
def integer? : Value → Option Int
  | int n => some n
  | bool value => some value.toNat
  | _ => .none

/-! ### Texts -/

/-- The decimal text of an integer within the digit limit. -/
def intText? (n : Int) : Option String :=
  if digitLimit < Text.digitCount n.natAbs then .none else some (toString n)

/-- The text of a fraction: its numerator, over its denominator unless that is one. -/
def fractionText? (q : Rat) : Option String := do
  let numerator ← intText? q.num
  if q.den = 1 then some numerator
  else
    let denominator ← intText? q.den
    some (numerator ++ "/" ++ denominator)

def quotedFraction? (q : Rat) : Option String := do
  let numerator ← intText? q.num
  let denominator ← intText? q.den
  some ("Fraction(" ++ numerator ++ ", " ++ denominator ++ ")")

mutual

def quoted? : Value → Option String
  | none => some "None"
  | bool true => some "True"
  | bool false => some "False"
  | int n => intText? n
  | float x => some (x.text Binary64.plainStyle)
  | decimal d => some ("Decimal('" ++ d.text ++ "')")
  | fraction q => quotedFraction? q
  | text s => some (Text.quoted s)
  | list items => do
    let parts ← quotedAll? items
    some ("[" ++ ", ".intercalate parts ++ "]")
  | tuple items => do
    let parts ← quotedAll? items
    some ("(" ++ ", ".intercalate parts ++ (if parts.length = 1 then ",)" else ")"))
  | mapping entries => do
    let parts ← quotedEntries? entries
    some ("\x7b" ++ ", ".intercalate parts ++ "\x7d")
  | shown _ texts _ => texts.map (·.2)

def quotedAll? : List Value → Option (List String)
  | [] => some []
  | item :: items => do
    let first ← item.quoted?
    let others ← quotedAll? items
    some (first :: others)

def quotedEntries? : List (Value × Value) → Option (List String)
  | [] => some []
  | (key, value) :: entries => do
    let name ← key.quoted?
    let content ← value.quoted?
    let others ← quotedEntries? entries
    some ((name ++ ": " ++ content) :: others)

end

def text? : Value → Option String
  | text s => some s
  | decimal d => some d.text
  | fraction q => fractionText? q
  | shown _ texts _ => texts.map (·.1)
  | value => value.quoted?

end Value

end Formula
