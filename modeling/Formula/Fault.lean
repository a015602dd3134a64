import Formula.Error
import Formula.Number.Decimal.Arithmetic
import Formula.Number.Kind
import Formula.Text.Decoding
import Formula.Value.Basic

/-! Why a computation has no result. A fault is an error of the expression, a mismatch of types, a
value that an operation does not admit, a failure of arithmetic, or whatever a callback chose to
raise. Reports tell errors of the expression from the other faults, and among those the values
and the failures of arithmetic from the rest.

Two limits of a host are not modelled: how deep a recursion may go, in reading, evaluating and
writing alike, and how much memory there is. Both are taken to be unbounded, so that only what no
memory could hold fails for want of it. -/
namespace Formula

inductive Mismatch where
  | operands (symbol left right : String)
  | operand (operation type : String)
  | concatenation (sequence other : String)
  | repetition (type : String)
  | variableValue (name quoted : String)
  | functionValue (name : String) (arity : Int) (quoted : String)
  | notANode (quoted : String)
  | notEvaluable (quoted : String)
  | notCallable (type : String)
  | notAnInteger (type : String)
  | notReal (type : String)
  | notIterable (type : String)
  | notHashable (type : String)
  | unordered (symbol left right : String)
  | missingMethod (type method : String)
  | argumentCount (message : String)
  | argument (message : String)
  deriving DecidableEq

def Mismatch.message : Mismatch → String
  | operands symbol left right =>
    "unsupported operand type(s) for " ++ symbol ++ ": '" ++ left ++ "' and '" ++ right ++ "'"
  | operand operation type => "bad operand type for " ++ operation ++ ": '" ++ type ++ "'"
  | concatenation sequence other =>
    "can only concatenate " ++ sequence ++ " (not \"" ++ other ++ "\") to " ++ sequence
  | repetition type => "can't multiply sequence by non-int of type '" ++ type ++ "'"
  | variableValue name quoted =>
    "Variable '" ++ name ++ "' must be bound to a number, got " ++ quoted
  | functionValue name arity quoted =>
    "Function '" ++ signatureText name arity ++ "' must be bound to a callable, got " ++ quoted
  | notANode quoted => "Not an expression node: " ++ quoted
  | notEvaluable quoted => "Cannot evaluate " ++ quoted
  | notCallable type => "'" ++ type ++ "' object is not callable"
  | notAnInteger type => "'" ++ type ++ "' object cannot be interpreted as an integer"
  | notReal type => "must be real number, not " ++ type
  | notIterable type => "'" ++ type ++ "' object is not iterable"
  | notHashable type => "unhashable type: '" ++ type ++ "'"
  | unordered symbol left right =>
    "'" ++ symbol ++ "' not supported between instances of '" ++ left ++ "' and '" ++ right ++ "'"
  | missingMethod type method => "type " ++ type ++ " doesn't define " ++ method ++ " method"
  | argumentCount message => message
  | argument message => message

inductive Inadmissible where
  | tooManyDigits
  | domain
  | signalingNaN
  | numberKind (quoted : String)
  | argument (message : String)
  deriving DecidableEq

/-- What is said of a numeral with too many digits. -/
def tooManyDigitsRead (count : Nat) : String :=
  "Exceeds the limit (" ++ toString digitLimit ++ " digits) for integer string conversion: " ++
    "value has " ++ toString count ++
    " digits; use sys.set_int_max_str_digits() to increase the limit"

def Inadmissible.message : Inadmissible → String
  | tooManyDigits =>
    "Exceeds the limit (" ++ toString digitLimit ++ " digits) for integer string conversion; " ++
      "use sys.set_int_max_str_digits() to increase the limit"
  | domain => "math domain error"
  | signalingNaN => "cannot convert signaling NaN to float"
  | numberKind quoted =>
    "Unknown number_type " ++ quoted ++ "; expected one of " ++
      ", ".intercalate (NumberKind.all.map (·.name))
  | argument message => message

inductive ZeroDivision where
  | integer
  | float
  | fraction (numerator : Int)
  | power
  deriving DecidableEq

def ZeroDivision.message : ZeroDivision → String
  | integer => "division by zero"
  | float => "float division by zero"
  | fraction numerator => "Fraction(" ++ toString numerator ++ ", 0)"
  | power => "0.0 cannot be raised to a negative power"

inductive Overflow where
  | integer
  | quotient
  | range
  | infiniteInteger
  | index
  | argument (message : String)
  deriving DecidableEq

def Overflow.message : Overflow → String
  | integer => "int too large to convert to float"
  | quotient => "integer division result too large for a float"
  | range => "math range error"
  | infiniteInteger => "cannot convert float infinity to integer"
  | index => "cannot fit 'int' into an index-sized integer"
  | argument message => message

inductive Fault where
  | expression (error : ExpressionError)
  | mismatch (cause : Mismatch)
  | value (cause : Inadmissible)
  | zeroDivision (cause : ZeroDivision)
  | overflow (cause : Overflow)
  | decimal (cause : Decimal.Condition)
  | undecodable (cause : Text.Undecodable)
  | index (sequence : String)
  | memory
  | raised (type : String) (arguments : List Value)

namespace Fault

def conditionName : Decimal.Condition → String
  | .invalidOperation => "InvalidOperation"
  | .divisionUndefined => "DivisionUndefined"
  | .divisionByZero => "DivisionByZero"
  | .overflow => "Overflow"

/-- What a fault of some type raised with some arguments says; a missing key is quoted. -/
def argumentsText (type : String) : List Value → String
  | [] => ""
  | [argument] => ((if type = "KeyError" then argument.quoted? else argument.text?)).getD ""
  | arguments => (Value.tuple arguments).quoted?.getD ""

def message : Fault → String
  | expression error => error.text
  | mismatch cause => cause.message
  | value cause => cause.message
  | zeroDivision cause => cause.message
  | overflow cause => cause.message
  | decimal cause => "[<class 'decimal." ++ conditionName cause ++ "'>]"
  | undecodable cause => cause.message
  | index sequence => sequence ++ " index out of range"
  | memory => ""
  | raised type arguments => argumentsText type arguments

/-- The name of a fault's type in reports, for faults that are no errors of the expression. -/
def typeName : Fault → String
  | expression error => error.kind
  | mismatch _ => "TypeError"
  | value _ => "ValueError"
  | zeroDivision _ => "ZeroDivisionError"
  | overflow _ => "OverflowError"
  | decimal .divisionUndefined => "InvalidOperation"
  | decimal cause => conditionName cause
  | undecodable _ => "UnicodeDecodeError"
  | index _ => "IndexError"
  | memory => "MemoryError"
  | raised type _ => type

/-- The fault is about an inadmissible value or a failure of arithmetic. -/
def isComputational : Fault → Bool
  | value _ | zeroDivision _ | overflow _ | decimal _ | undecodable _ => true
  | _ => false

/-- The fault of a division by what counts as zero in the arithmetic of the operands. -/
def isZeroDivision : Fault → Bool
  | zeroDivision _ | decimal .divisionByZero => true
  | _ => false

/-- The fault of a number that cannot be represented. -/
def isOverflow : Fault → Bool
  | overflow _ | decimal .overflow => true
  | _ => false

/-- The fault of a quotient that is infinite or too great. -/
def isInfiniteQuotient (fault : Fault) : Bool :=
  fault.isZeroDivision || fault.isOverflow

end Fault

/-- Why a text is not read: it is malformed, or reading it comes to a fault. -/
inductive Unread where
  | malformed
  | fault (cause : Fault)

/-- The value of an option, or the fault of an integer with too many digits. -/
def withinDigits (text : Option α) : Except Fault α :=
  match text with
  | some text => .ok text
  | none => .error (.value .tooManyDigits)

/-- The fault of raising an error. The text of an error is written when the error is made: if it has
an integer beyond the digit limit, there is no such error, and writing the integer is the fault. -/
def Fault.ofError (error : ExpressionError) : Fault :=
  match error.integer?.map Value.intText? with
  | some none => .value .tooManyDigits
  | _ => .expression error

end Formula
